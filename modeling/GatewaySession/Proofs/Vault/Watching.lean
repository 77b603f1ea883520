import GatewaySession.Proofs.Program.Trace
import GatewaySession.Proofs.Vault.Serving

/-!
# Watching a vault

One rule for each operation of a vault, for any watch: which effects it performs, in which order,
and with which result for which answers. A watch that knows the sealing key knows what a blob holds,
so a read that succeeds has the content of the blob that was found.

## Main definitions

* `Vault.content?` — the record in a blob
* `Vault.Keyed` — answers where the vault is sealed with one key

## Main results

* `Vault.content?_blob`, `Vault.run_read_blob` — a sealed record is the content of its blob, and is
  read as such
* `Vault.run_opened` — opening any blob gives its content
* `Vault.read_ends` — what is read along a path, whoever answers
* `Watch.meets_read`, `Watch.meets_write`, `Watch.meets_remove` — the rules
-/

namespace GatewaySession

open Program (Meets)

variable {γ α : Type} {watch : Watch γ} {mark : γ}

/-! ### The content of a blob -/

namespace Vault

variable [Record α] {vault : Vault} {key : Aes256.Key}

/-- The record in a blob of a vault, if it is long enough, opens, and holds one. -/
def content? (vault : Vault) (key : Aes256.Key) (blob : Bytes) : Option α :=
  match Envelope.checkLength blob with
  | .error _ => none
  | .ok _ =>
    match Envelope.unwrapWith key vault.name blob with
    | .error _ => none
    | .ok plaintext => Record.decode? plaintext

theorem content?_of_short {blob : Bytes} {error : Error}
    (short : Envelope.checkLength blob = .error error) :
    (vault.content? key blob : Option α) = none := by
  rw [content?, short]

theorem content?_of_altered {blob : Bytes} {error : Error}
    (altered : Envelope.unwrapWith key vault.name blob = .error error) :
    (vault.content? key blob : Option α) = none := by
  rw [content?, altered]
  cases Envelope.checkLength blob <;> rfl

theorem content?_of_opened {blob plaintext : Bytes} (long : Envelope.checkLength blob = .ok ())
    (opened : Envelope.unwrapWith key vault.name blob = .ok plaintext) :
    (vault.content? key blob : Option α) = Record.decode? plaintext := by
  rw [content?, long, opened]

/-- **A sealed record** is the content of its blob. -/
theorem content?_blob {value : α} (faithful : Record.Faithful value) (nonce : Gcm.Nonce) :
    vault.content? key (vault.blob key nonce value) = some value :=
  (content?_of_opened (Envelope.checkLength_wrap _ _ _ _)
    (Envelope.unwrapWith_wrap _ _ _ _)).trans faithful

section

variable {σ : Type} {handle : (effect : Effect) → σ → effect.Reply × σ} {slot : Slot}
  {nonce : Gcm.Nonce} {value : α} {state between last : σ}

theorem run_fetched {found : Option Bytes}
    (answered : handle (.read (vault.keyFor slot)) state = (.ok found, last)) :
    (about "get" (vault.keyFor slot) (.read (vault.keyFor slot))).run handle state =
      (.ok found, last) :=
  run_about_ok answered

/-- A sealed record is opened with the key that is given, if one is. -/
theorem run_unsealed_blob {given : Except Error Aes256.Key}
    (answered : handle (.sealingKey vault.name) state = (given, last)) :
    (vault.unsealed (vault.blob key nonce value)).run handle state =
      (given.bind fun other => Envelope.unwrapWith other vault.name (vault.blob key nonce value),
        last) := by
  have asked : (Program.sealingKey vault.name).run handle state = (given, last) := answered
  have long : (Program.ofExcept (Envelope.checkLength (vault.blob key nonce value))).run handle
      state = (.ok (), state) := by
    rw [blob, Envelope.checkLength_wrap, Program.run_ofExcept]
  rw [unsealed, Program.run_bind_ok long]
  cases given with
  | error error => exact Program.run_bind_error asked
  | ok other => rw [Program.run_bind_ok asked, Program.run_ofExcept, Except.bind]

/-- Reading a slot where nothing is found. -/
theorem run_read_nothing
    (found : handle (.read (vault.keyFor slot)) state = (.ok none, last)) :
    (vault.read slot : Program (Option α)).run handle state = (.ok none, last) := by
  rw [Vault.read, Program.run_bind_ok (run_fetched found)]
  exact Program.run_pure _ _ _

/-- **Reading a sealed record** where the blob is found and the key is at hand. -/
theorem run_read_blob (faithful : Record.Faithful value)
    (found : handle (.read (vault.keyFor slot)) state =
      (.ok (some (vault.blob key nonce value)), between))
    (keyed : handle (.sealingKey vault.name) between = (.ok key, last)) :
    (vault.read slot : Program (Option α)).run handle state = (.ok (some value), last) := by
  have opened : (vault.unsealed (vault.blob key nonce value)).run handle between =
      (.ok (Record.encode value), last) := by
    rw [run_unsealed_blob keyed, Except.bind, blob, Envelope.unwrapWith_wrap]
  have decoded : (Program.ofExcept (recordOf slot (Record.encode value) : Except Error α)).run
      handle last = (.ok value, last) := by
    rw [recordOf, faithful, Program.run_ofExcept]
  rw [Vault.read, Program.run_bind_ok (run_fetched found)]
  exact (Program.run_bind_ok opened).trans ((Program.run_bind_ok decoded).trans
    (Program.run_pure _ _ _))

/-- Reading a sealed record without the key. -/
theorem run_read_locked {error : Error}
    (found : handle (.read (vault.keyFor slot)) state =
      (.ok (some (vault.blob key nonce value)), between))
    (locked : handle (.sealingKey vault.name) between = (.error error, last)) :
    (vault.read slot : Program (Option α)).run handle state = (.error error, last) := by
  rw [Vault.read, Program.run_bind_ok (run_fetched found)]
  have opened : (vault.unsealed (vault.blob key nonce value)).run handle between =
      (.error error, last) := by
    rw [run_unsealed_blob locked, Except.bind]
  exact Program.run_bind_error opened

/-- **Opening a blob** where the key is at hand gives its content, or an integrity error if it has
none. A blob that is too short is not opened. -/
theorem run_opened (slot : Slot) (blob : Bytes)
    (keyed : handle (.sealingKey vault.name) state = (.ok key, between)) :
    ∃ (result : Except Error α) (last : σ), (last = state ∨ last = between) ∧ (do
        let plaintext ← vault.unsealed blob
        .ofExcept (recordOf slot plaintext) : Program α).run handle state = (result, last) ∧
      match (vault.content? key blob : Option α) with
      | none => ∃ detail, result = .error (.integrity detail)
      | some value => result = .ok value := by
  cases long : Envelope.checkLength blob with
  | error error =>
    obtain ⟨detail, rfl⟩ := Envelope.integrity_of_checkLength long
    refine ⟨.error (.integrity detail), state, .inl rfl, Program.run_bind_error ?_, ?_⟩
    · rw [unsealed, long]
      exact Program.run_bind_error (Program.run_ofExcept _ _ _)
    · rw [content?_of_short long]
      exact ⟨detail, rfl⟩
  | ok _ =>
  have run : (vault.unsealed blob).run handle state =
      (Envelope.unwrapWith key vault.name blob, between) := by
    have asked : (Program.sealingKey vault.name).run handle state = (.ok key, between) := keyed
    rw [unsealed, long, Program.run_bind_ok (Program.run_ofExcept _ _ _),
      Program.run_bind_ok asked]
    exact Program.run_ofExcept _ _ _
  cases opened : Envelope.unwrapWith key vault.name blob with
  | error error =>
    obtain ⟨detail, rfl⟩ := Envelope.integrity_of_unwrapWith opened
    rw [opened] at run
    refine ⟨_, between, .inr rfl, Program.run_bind_error run, ?_⟩
    rw [content?_of_altered opened]
    exact ⟨detail, rfl⟩
  | ok plaintext =>
    rw [opened] at run
    refine ⟨recordOf slot plaintext, between, .inr rfl,
      (Program.run_bind_ok run).trans (Program.run_ofExcept _ _ _), ?_⟩
    rw [content?_of_opened long opened, recordOf]
    cases (Record.decode? plaintext : Option α) with
    | none => exact ⟨_, rfl⟩
    | some value => rfl

end

end Vault

/-- What is answered where the vault is sealed with one key. -/
def Vault.Keyed (vault : Vault) (key : Aes256.Key) : (effect : Effect) → effect.Reply → Prop
  | .sealingKey name, .ok other => name = vault.name → other = key
  | _, _ => True

/-! ### Paths -/

namespace Vault

section

variable [Record α] {vault : Vault} {key : Aes256.Key} {events : List Event}
  (keyed : ∀ event ∈ events, vault.Keyed key event.effect event.reply)
  (silent : ∀ detail, ⟨.sealingKey vault.name, .error (.integrity detail)⟩ ∉ events)

include keyed silent

/-- A blob that opens along a path does so with the key, and one that does not holds no record. A
key store that does not give the key out says nothing of the record. -/
theorem unsealed_ends {blob : Bytes} {result : Except Error Bytes}
    (ends : (vault.unsealed blob).Ends events result) :
    (∀ plaintext, result = .ok plaintext → Envelope.checkLength blob = .ok () ∧
        Envelope.unwrapWith key vault.name blob = .ok plaintext) ∧
      ∀ detail, result = .error (.integrity detail) →
        (vault.content? key blob : Option α) = none := by
  unfold Vault.unsealed at ends
  cases long : Envelope.checkLength blob with
  | error error =>
    rw [long] at ends
    obtain ⟨-, rfl⟩ := ends
    exact ⟨nofun, fun _ _ => content?_of_short long⟩
  | ok _ =>
  rw [long] at ends
  obtain ⟨given, rest, rfl, ends⟩ := ends
  cases given with
  | error error =>
    obtain ⟨-, rfl⟩ := ends
    refine ⟨nofun, fun detail damaged => ?_⟩
    rw [Except.error.inj damaged] at silent
    exact absurd List.mem_cons_self (silent detail)
  | ok other =>
    obtain rfl := keyed _ List.mem_cons_self rfl
    obtain ⟨-, rfl⟩ := ends
    exact ⟨fun _ opened => ⟨rfl, opened⟩, fun _ altered => content?_of_altered altered⟩

/-- **Reading a slot** along a path finds the content of the blob that is there, or nothing; if the
record is unreadable, the blob that is there has no content. -/
theorem read_ends {slot : Slot} {result : Except Error (Option α)}
    (ends : (vault.read slot : Program (Option α)).Ends events result) :
    ∃ reply rest, events = ⟨.read (vault.keyFor slot), reply⟩ :: rest ∧
      (∀ found, result = .ok found →
        ∃ stored, reply = .ok stored ∧ found = stored.bind (vault.content? key)) ∧
      ∀ detail, result = .error (.integrity detail) →
        ∃ blob, reply = .ok (some blob) ∧ (vault.content? key blob : Option α) = none := by
  obtain ⟨reply, rest, rfl, ends⟩ := ends
  refine ⟨reply, rest, rfl, ?_⟩
  obtain source | _ | blob := reply
  · obtain ⟨-, rfl⟩ := ends
    exact ⟨nofun,
      nofun⟩
  · obtain ⟨-, rfl⟩ := ends
    exact ⟨fun _ done => ⟨none, rfl, (Except.ok.inj done).symm⟩,
      nofun⟩
  have ends : (vault.unsealed blob >>= fun plaintext => do
      return some (← .ofExcept (recordOf slot plaintext))).Ends rest result := ends
  obtain ⟨-, later⟩ := List.forall_mem_cons.1 keyed
  have silent (detail : String) := fun mem => silent detail (List.mem_cons_of_mem _ mem)
  have opens (early late : List Event) (result : Except Error Bytes) (same : rest = early ++ late)
      (opening : (vault.unsealed blob).Ends early result) :=
    unsealed_ends (α := α) (fun event mem => later event (same ▸ List.mem_append_left _ mem))
      (fun detail mem => silent detail (same ▸ List.mem_append_left _ mem)) opening
  obtain ⟨error, failed, rfl⟩ | ⟨plaintext, early, late, same, opening, ends⟩ :=
    Program.Ends.of_bind ends
  · refine ⟨nofun, fun detail damaged => ⟨blob, rfl, ?_⟩⟩
    rw [Except.error.inj damaged] at failed
    exact (opens rest [] _ (List.append_nil rest).symm failed).2 detail rfl
  · obtain ⟨long, opened⟩ := (opens early late _ same opening).1 plaintext rfl
    have content := content?_of_opened (α := α) long opened
    unfold recordOf at ends
    cases decoded : (Record.decode? plaintext : Option α) with
    | none =>
      rw [decoded] at ends
      obtain ⟨-, rfl⟩ := ends
      exact ⟨nofun,
        fun _ _ => ⟨blob, rfl, content.trans decoded⟩⟩
    | some value =>
      rw [decoded] at ends
      obtain ⟨-, rfl⟩ := ends
      exact ⟨fun _ done => ⟨some blob, rfl,
          (Except.ok.inj done).symm.trans (content.trans decoded).symm⟩,
        nofun⟩

end

end Vault

/-! ### Rules -/

namespace Watch

/-- Between holding and releasing the store. -/
theorem meets_guarded {post : γ → Except Error α → Prop} {program : Program α}
    (held : watch.permits mark .hold)
    (h : program.Meets watch (fun last result => watch.permits last .release ∧
      post (watch.next last .release ()) result) (watch.next mark .hold ())) :
    program.guarded.Meets watch post mark :=
  Meets.ask held fun _ _ => Meets.rescue (h.mono fun _ _ ⟨released, met⟩ =>
    Meets.ask released fun _ _ => met)

/-- A storage operation wraps its errors. -/
theorem meets_about {post : γ → Except Error α → Prop} {operation key : String}
    {program : Program α}
    (h : program.Meets watch (fun last result => post last (match result with
      | .ok a => .ok a
      | .error source => .error (.storageOperation operation key source))) mark) :
    (Vault.about operation key program).Meets watch post mark := by
  refine Meets.rescue (h.mono ?_)
  rintro last (source | a) met
  · exact met
  · exact met

variable {vault : Vault} {slot : Slot}

/-- **Emptying a slot** is one removal. -/
theorem meets_remove {post : γ → Except Error Unit → Prop}
    (permitted : watch.permits mark (.remove (vault.keyFor slot)))
    (h : ∀ reply, post (watch.next mark (.remove (vault.keyFor slot)) reply) (match reply with
      | .ok _ => .ok ()
      | .error source => .error (.storageOperation "delete" (vault.keyFor slot) source))) :
    (vault.remove slot).Meets watch post mark :=
  meets_about ⟨permitted, fun reply _ => by
    cases reply with
    | error source => exact h (.error source)
    | ok _ => exact h (.ok ())⟩

section

variable [Record α] {key : Aes256.Key}
  (own : ∀ other, watch.grants (.sealingKey vault.name) (.ok other) → other = key)

include own

/-- **Filling a slot** is one write of the sealed record, if the key is at hand. -/
theorem meets_write {post : γ → Except Error Unit → Prop} {value : α}
    (keyed : watch.permits mark (.sealingKey vault.name))
    (locked : ∀ error, post (watch.next mark (.sealingKey vault.name) (.error error))
      (.error error))
    (written : ∀ nonce, watch.permits (watch.next mark (.sealingKey vault.name) (.ok key)) .nonce ∧
      watch.permits (watch.next (watch.next mark (.sealingKey vault.name) (.ok key)) .nonce nonce)
        (.write (vault.keyFor slot) (vault.blob key nonce value)) ∧
      ∀ reply, post (watch.next
        (watch.next (watch.next mark (.sealingKey vault.name) (.ok key)) .nonce nonce)
        (.write (vault.keyFor slot) (vault.blob key nonce value)) reply) (match reply with
          | .ok _ => .ok ()
          | .error source => .error (.storageOperation "put" (vault.keyFor slot) source))) :
    (vault.write slot value).Meets watch post mark := by
  refine Meets.bind ⟨keyed, fun reply granted => ?_⟩
  cases reply with
  | error error => exact locked error
  | ok other =>
    obtain rfl := own other granted
    -- Any nonce shows that asking for one is permitted.
    refine ⟨(written (Vector.replicate 12 0)).1, fun nonce _ => ?_⟩
    obtain ⟨-, permitted, done⟩ := written nonce
    refine meets_about ⟨permitted, fun reply _ => ?_⟩
    cases reply with
    | error source => exact done (.error source)
    | ok _ => exact done (.ok ())

/-- **Reading a slot** finds nothing, or a blob that may open and have the record as its content. -/
theorem meets_read {post : γ → Except Error (Option α) → Prop}
    (permitted : watch.permits mark (.read (vault.keyFor slot)))
    (keyed : ∀ blob, watch.permits
      (watch.next mark (.read (vault.keyFor slot)) (.ok (some blob))) (.sealingKey vault.name))
    (failed : ∀ source, post (watch.next mark (.read (vault.keyFor slot)) (.error source))
      (.error (.storageOperation "get" (vault.keyFor slot) source)))
    (absent : post (watch.next mark (.read (vault.keyFor slot)) (.ok none)) (.ok none))
    (short : ∀ blob detail, (vault.content? key blob : Option α) = none →
      post (watch.next mark (.read (vault.keyFor slot)) (.ok (some blob)))
        (.error (.integrity detail)))
    (locked : ∀ blob error, post (watch.next
      (watch.next mark (.read (vault.keyFor slot)) (.ok (some blob)))
      (.sealingKey vault.name) (.error error)) (.error error))
    (found : ∀ blob (result : Except Error (Option α)), (match vault.content? key blob with
        | some value => result = .ok (some value)
        | none => ∃ detail, result = .error (.integrity detail)) →
      post (watch.next (watch.next mark (.read (vault.keyFor slot)) (.ok (some blob)))
        (.sealingKey vault.name) (.ok key)) result) :
    (vault.read slot : Program (Option α)).Meets watch post mark := by
  refine Meets.bind (meets_about ⟨permitted, fun reply _ => ?_⟩)
  rcases reply with source | (_ | blob)
  · exact failed source
  · exact absent
  refine Meets.bind (Meets.bind ?_)
  cases long : Envelope.checkLength blob with
  | error error =>
    obtain ⟨detail, rfl⟩ := Envelope.integrity_of_checkLength long
    exact short blob detail (Vault.content?_of_short long)
  | ok _ =>
  refine ⟨keyed blob, fun reply granted => ?_⟩
  cases reply with
  | error error => exact locked blob error
  | ok other =>
  obtain rfl := own other granted
  have outcome := found blob
  show Meets watch _ _ (Program.ofExcept (Envelope.unwrapWith other vault.name blob))
  cases opened : Envelope.unwrapWith other vault.name blob with
  | error error =>
    obtain ⟨detail, rfl⟩ := Envelope.integrity_of_unwrapWith opened
    rw [Vault.content?_of_altered opened] at outcome
    exact outcome _ ⟨detail, rfl⟩
  | ok plaintext =>
    rw [Vault.content?_of_opened long opened] at outcome
    refine Meets.bind ?_
    show match (Vault.recordOf slot plaintext : Except Error α) with
      | .ok value => post _ (.ok (some value))
      | .error error => post _ (.error error)
    rw [Vault.recordOf]
    cases decoded : (Record.decode? plaintext : Option α) with
    | none =>
      rw [decoded] at outcome
      exact outcome _ ⟨_, rfl⟩
    | some value =>
      rw [decoded] at outcome
      exact outcome _ rfl

end

end Watch

end GatewaySession
