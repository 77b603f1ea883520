import GatewaySession.Exchange.Connection
import GatewaySession.Proofs.Program.Trace

/-!
# Programs that perform certain effects only

Much of what is to be known of a program is which effects it performs, whoever answers: that it
touches one slot only, that it goes without the user, that it sends nothing. Each of these is a
predicate on effects, and a program performs no others if its parts do. What the parts of a session
perform is said here for any predicate: to look up, empty and fill a slot, to take the refresh token
out, and to have a connection.

## Main definitions

* `Watch.only`, `Program.Performs` — programs that perform certain effects only

## Main results

* `Program.Performs.bind`, `Program.Performs.rescue` — the rules
* `Program.Performs.ends`, `Program.Performs.keeps` — paths and runs of such a program
* `Vault.performs_read`, `Vault.performs_clear`, `Vault.performs_store`,
  `Vault.performs_takeRefreshToken` — slots
* `Session.performs_readable`, `Session.performs_connection` — records and the connection
-/

namespace GatewaySession

open Program (Ends Meets)

/-! ### Rules -/

/-- The watch that permits certain effects, and takes nothing for granted. -/
def Watch.only (permits : Effect → Prop) : Watch Unit where
  permits _ := permits
  grants _ _ := True
  next _ _ _ := ()

/-- Whether a program performs certain effects only. -/
abbrev Program.Performs {α : Type} (permits : Effect → Prop) (program : Program α) : Prop :=
  program.Meets (.only permits) (fun _ _ => True) ()

namespace Program.Performs

variable {α β : Type} {permits : Effect → Prop} {program : Program α}

theorem bind {f : α → Program β} (h : program.Performs permits)
    (hf : ∀ a, (f a).Performs permits) : (program >>= f).Performs permits := by
  refine Meets.bind (h.mono ?_)
  rintro _ (error | a) _
  · trivial
  · exact hf a

theorem rescue {f : Except Error α → Program β} (h : program.Performs permits)
    (hf : ∀ result, (f result).Performs permits) : (program.attempt >>= f).Performs permits :=
  Meets.rescue (h.mono fun _ result _ => hf result)

theorem about {operation key : String} (h : program.Performs permits) :
    (Vault.about operation key program).Performs permits := by
  refine h.rescue fun result => ?_
  cases result with
  | ok a => trivial
  | error source => trivial

theorem guarded (held : permits .hold) (released : permits .release)
    (h : program.Performs permits) : program.guarded.Performs permits :=
  Meets.ask held fun _ _ => h.rescue fun _ => Meets.ask released fun _ _ => trivial

theorem ask {effect : Effect} (permitted : permits effect) :
    (Program.ask effect).Performs permits :=
  ⟨permitted, fun _ _ => trivial⟩

theorem seconds (permitted : permits .time) : Program.seconds.Performs permits :=
  (ask permitted).bind fun _ => trivial

/-- What happens along a path of such a program. -/
theorem ends (h : program.Performs permits) {events : List Event} {result : Except Error α}
    (ends : program.Ends events result) : ∀ event ∈ events, permits event.effect := by
  intro event mem
  obtain ⟨early, late, rfl⟩ := List.append_of_mem mem
  exact (Meets.ends h (fun _ _ => trivial) ends).2 early event late rfl

theorem mono {permits' : Effect → Prop} (h : program.Performs permits)
    (more : ∀ effect, permits effect → permits' effect) : program.Performs permits' := by
  induction program with
  | done result => trivial
  | perform effect next ih => exact ⟨more effect h.1, fun reply _ => ih reply (h.2 reply trivial)⟩

/-- A run keeps what is kept by every effect that its program performs. -/
theorem keeps {σ : Type} {handle : (effect : Effect) → σ → effect.Reply × σ} (holds : σ → Prop)
    {state last : σ} {result : Except Error α} (h : program.Performs permits)
    (kept : ∀ {effect state}, permits effect → holds state → holds (handle effect state).2)
    (run : program.run handle state = (result, last)) (start : holds state) : holds last := by
  obtain ⟨_, ended, -⟩ := Program.Meets.run (fun _ state => holds state)
    (fun related permitted => ⟨trivial, kept permitted related⟩) state start h
  rwa [run] at ended

end Program.Performs

/-! ### Slots and the connection -/

section

variable {α : Type} [Record α] {permits : Effect → Prop}

namespace Vault

variable {vault : Vault} {slot : Slot}

section

variable (keyed : permits (.sealingKey vault.name))

include keyed

/-- Opening a blob asks for the key at most. -/
theorem performs_unsealed (blob : Bytes) : (vault.unsealed blob).Performs permits :=
  .bind trivial fun _ => .bind ⟨keyed, fun _ _ => trivial⟩ fun _ => trivial

/-- A slot is read by fetching its blob and asking for the key. -/
theorem performs_read (fetched : permits (.read (vault.keyFor slot))) :
    (vault.read slot : Program (Option α)).Performs permits := by
  refine .bind (.about ⟨fetched, fun _ _ => trivial⟩) fun found => ?_
  cases found with
  | none => trivial
  | some blob => exact (performs_unsealed keyed blob).bind fun _ => .bind trivial fun _ => trivial

end

theorem performs_remove (removed : permits (.remove (vault.keyFor slot))) :
    (vault.remove slot).Performs permits :=
  .about ⟨removed, fun _ _ => trivial⟩

section

variable (held : permits .hold) (released : permits .release)

include held released

/-- A slot is emptied by removing its blob. -/
theorem performs_clear (removed : permits (.remove (vault.keyFor slot))) :
    (vault.clear slot).Performs permits :=
  .guarded held released (performs_remove removed)

variable (keyed : permits (.sealingKey vault.name))

include keyed

/-- A slot is filled by sealing a record and writing it. -/
theorem performs_store (drawn : permits .nonce)
    (written : ∀ blob, permits (.write (vault.keyFor slot) blob)) (value : α) :
    (vault.store slot value).Performs permits := by
  have sealed (plaintext : Bytes) : (vault.sealed plaintext).Performs permits :=
    .bind ⟨keyed, fun _ _ => trivial⟩ fun _ => .bind (.ask drawn) fun _ => trivial
  exact .guarded held released
    (.bind (sealed _) fun blob => .about ⟨written blob, fun _ _ => trivial⟩)

/-- The refresh token is taken out by reading and removing it. -/
theorem performs_takeRefreshToken (fetched : permits (.read (vault.keyFor .refreshToken)))
    (removed : permits (.remove (vault.keyFor .refreshToken))) :
    vault.takeRefreshToken.Performs permits := by
  refine .guarded held released (.rescue (performs_read keyed fetched) fun result => ?_)
  split
  · trivial
  · exact .bind (performs_remove removed) fun _ => trivial
  · exact .bind (performs_remove removed) fun _ => trivial
  · trivial

end

end Vault

namespace Session

variable {session : Session} {slot : Slot}

/-- A record that is looked up is removed if it is unreadable. -/
theorem performs_readable (keyed : permits (.sealingKey session.vault.name)) (held : permits .hold)
    (released : permits .release) (fetched : permits (.read (session.vault.keyFor slot)))
    (removed : permits (.remove (session.vault.keyFor slot))) :
    (session.readable slot (session.vault.read slot : Program (Option α))).Performs permits := by
  refine .rescue (Vault.performs_read keyed fetched) fun result => ?_
  split
  · exact .rescue (Vault.performs_clear held released removed) fun _ => trivial
  · trivial

/-- A connection that is not cached is made for the registration. -/
theorem performs_connection (identity : session.deviceIdentity.Performs permits)
    (asked : permits .connection) (made : ∀ registration, permits (.connect registration))
    (cached : ∀ connection, permits (.cacheConnection (some connection))) :
    session.connection.Performs permits := by
  refine .bind (.ask asked) fun known => ?_
  split
  · trivial
  · exact identity.bind fun registration =>
      .bind ⟨made registration, fun _ _ => trivial⟩ fun _ =>
        .bind (.ask (cached _)) fun _ => trivial

end Session

end

end GatewaySession
