import GatewaySession.Proofs.Exchange.Renewal

/-!
# Handling the refresh token

A program that takes the refresh token out has it in hand until it is presented. What was in the
slot is known for certain only while the store is held, so that three things make up the mark of
this watch: whether the program holds the store, the blob that it has found in the slot since it
got hold of it, and the blob that it has removed and not presented yet.

Nothing is written or removed without holding the store, which is never asked for by a program that
holds it, and a refresh token is presented only if its blob is in hand. All that a session does is
like this, and only one part needs a closer look: between taking the token out and presenting it,
the device headers and the connection are made, and neither touches the slot.

## Main definitions

* `Hand` — the mark
* `Session.handling` — the watch
* `Session.Spares`, `Session.sparing` — events that leave the slot alone, and the watch for them

## Main results

* `Session.handling_takeRefreshToken` — a token that is given out is in hand
* `Session.ends_takeRefreshToken_error` — where none is given out for an error, the slot is spared
* `Session.handling_whole` — everything an engine does meets the watch
-/

namespace GatewaySession

open Program (Meets Closed)

/-- Whether an effect presents a refresh token. -/
def Effect.isRefresh : Effect → Bool
  | .send _ (.grant .refreshToken) _ => true
  | _ => false

theorem Effect.eq_refresh {effect : Effect} (h : effect.isRefresh = true) :
    ∃ connection request, effect = .send connection (.grant .refreshToken) request := by
  cases effect with
  | send connection purpose request =>
    cases purpose with
    | grant presented =>
      cases presented with
      | refreshToken => exact ⟨connection, request, rfl⟩
      | _ => cases h
    | _ => cases h
  | _ => cases h

/-- What a program has in hand of the refresh token. -/
structure Hand where
  /-- Whether it holds the store. -/
  holding : Bool
  /-- What it has found in the slot since it holds the store, unless it has changed it. -/
  seen : Option Bytes
  /-- What it has removed and not presented yet. -/
  out : Option Bytes

namespace Hand

/-- Nothing is in hand, and the store is not held. -/
def empty : Hand := ⟨false, none, none⟩

/-- What is in hand after an effect, where the slot has a storage key. -/
def after (slotKey : String) (hand : Hand) : (effect : Effect) → effect.Reply → Hand
  | .hold, _ => { hand with holding := true, seen := none }
  | .release, _ => { hand with holding := false, seen := none }
  | .read name, .ok found =>
    if hand.holding = true ∧ name = slotKey then { hand with seen := found } else hand
  | .write _ _, _ => { hand with seen := none }
  | .remove name, .ok _ =>
    if name = slotKey then { hand with seen := none, out := hand.seen } else hand
  | .remove name, .error _ => if name = slotKey then { hand with seen := none } else hand
  | .send _ (.grant .refreshToken) _, _ => { hand with out := none }
  | _, _ => hand

/-- Whether the store is held or not, and what is removed satisfies a condition. -/
def Is (held : Bool) (has : Option Bytes → Prop) (hand : Hand) : Prop :=
  hand.holding = held ∧ has hand.out

variable {slotKey : String} {hand : Hand} {held : Bool} {has : Option Bytes → Prop}

/-- Plain effects leave both alone. -/
theorem Is.plain {effect : Effect} (h : hand.Is held has) (plain : effect.IsPlain)
    (reply : effect.Reply) : (hand.after slotKey effect reply).Is held has := by
  cases effect with
  | read name =>
    cases reply with
    | error error => exact h
    | ok found =>
      rw [after]
      split
      · exact h
      · exact h
  | write | remove | list | hold | release | send => exact plain.elim
  | _ => exact h

/-- A removal leaves both alone if it is not of the slot, or nothing is asked of what is removed. -/
theorem Is.remove {name : String} (h : hand.Is held has) (safe : name = slotKey → ∀ out, has out)
    (reply : Except Error Unit) : (hand.after slotKey (.remove name) reply).Is held has := by
  cases reply with
  | error error =>
    rw [after]
    split
    · exact h
    · exact h
  | ok _ =>
    rw [after]
    split
    next same => exact ⟨h.1, safe same _⟩
    · exact h

/-- What is found in the slot while the store is held is seen. -/
theorem after_read_self (holding : hand.holding = true) (found : Option Bytes) :
    hand.after slotKey (.read slotKey) (.ok found) = { hand with seen := found } :=
  if_pos ⟨holding, rfl⟩

/-- What is seen and removed is in hand. -/
theorem after_remove_self : hand.after slotKey (.remove slotKey) (.ok ()) =
    { hand with seen := none, out := hand.seen } :=
  if_pos rfl

/-- Requests leave everything alone, except for the one that presents a refresh token. -/
theorem after_send {connection : Connection} {purpose : Purpose} {request : Request}
    (other : purpose ≠ .grant .refreshToken) (reply : Except Error Response) :
    hand.after slotKey (.send connection purpose request) reply = hand := by
  cases purpose with
  | grant presented =>
    cases presented with
    | refreshToken => exact absurd rfl other
    | _ => rfl
  | _ => rfl

theorem after_refresh {effect : Effect} (refresh : effect.isRefresh = true)
    (reply : effect.Reply) : hand.after slotKey effect reply = { hand with out := none } := by
  obtain ⟨connection, request, rfl⟩ := Effect.eq_refresh refresh
  rfl

theorem holding_after (effect : Effect) (reply : effect.Reply) :
    (hand.after slotKey effect reply).holding = effect.holds hand.holding := by
  cases effect with
  | read name =>
    cases reply with
    | error error => rfl
    | ok found => exact (apply_ite holding ..).trans (ite_self _)
  | remove name =>
    cases reply with
    | error error => exact (apply_ite holding ..).trans (ite_self _)
    | ok _ => exact (apply_ite holding ..).trans (ite_self _)
  | send connection purpose request =>
    by_cases refresh : purpose = .grant .refreshToken
    · subst refresh
      rfl
    · rw [after_send refresh]
      rfl
  | _ => rfl

/-- What is seen was found just now, or it was seen before and is left alone. -/
theorem seen_after {effect : Effect} {reply : effect.Reply} {blob : Bytes}
    (h : (hand.after slotKey effect reply).seen = some blob) :
    hand.holding = true ∧ (⟨effect, reply⟩ : Event) = ⟨.read slotKey, .ok (some blob)⟩ ∨
      hand.seen = some blob ∧ (∀ value, effect ≠ .write slotKey value) ∧
        effect ≠ .remove slotKey ∧ effect ≠ .hold ∧ effect ≠ .release := by
  cases effect with
  | read name =>
    cases reply with
    | error error => exact .inr ⟨h, nofun, nofun, nofun, nofun⟩
    | ok found =>
      rw [after] at h
      split at h
      next own =>
        obtain ⟨holding, rfl⟩ := own
        obtain rfl : found = some blob := h
        exact .inl ⟨holding, rfl⟩
      · exact .inr ⟨h, nofun, nofun, nofun, nofun⟩
  | remove name =>
    have left (differs : name ≠ slotKey) : Effect.remove name ≠ .remove slotKey := fun same =>
      differs (Effect.remove.inj same)
    cases reply with
    | error error =>
      rw [after] at h
      split at h
      · cases h
      next differs => exact .inr ⟨h, nofun, left differs, nofun, nofun⟩
    | ok _ =>
      rw [after] at h
      split at h
      · cases h
      next differs => exact .inr ⟨h, nofun, left differs, nofun, nofun⟩
  | write name value => cases h
  | hold => cases h
  | release => cases h
  | send connection purpose request =>
    by_cases refresh : purpose = .grant .refreshToken
    · subst refresh
      exact .inr ⟨h, nofun, nofun, nofun, nofun⟩
    · rw [after_send refresh] at h
      exact .inr ⟨h, nofun, nofun, nofun, nofun⟩
  | _ => exact .inr ⟨h, nofun, nofun, nofun, nofun⟩

/-- What is in hand was seen and removed just now, or it was in hand before and is not
presented. -/
theorem out_after {effect : Effect} {reply : effect.Reply} {blob : Bytes}
    (h : (hand.after slotKey effect reply).out = some blob) :
    (⟨effect, reply⟩ : Event) = ⟨.remove slotKey, .ok ()⟩ ∧ hand.seen = some blob ∨
      hand.out = some blob ∧ effect.isRefresh = false := by
  cases effect with
  | read name =>
    refine .inr ⟨?_, rfl⟩
    cases reply with
    | error error => exact h
    | ok found =>
      rw [after] at h
      split at h
      · exact h
      · exact h
  | remove name =>
    cases reply with
    | error error =>
      rw [after] at h
      split at h
      · exact .inr ⟨h, rfl⟩
      · exact .inr ⟨h, rfl⟩
    | ok _ =>
      rw [after] at h
      split at h
      next own =>
        subst own
        exact .inl ⟨rfl, h⟩
      · exact .inr ⟨h, rfl⟩
  | send connection purpose request =>
    cases refresh : (Effect.send connection purpose request).isRefresh with
    | true =>
      rw [after_refresh refresh] at h
      cases h
    | false =>
      refine .inr ⟨?_, rfl⟩
      rwa [after_send] at h
      rintro rfl
      cases refresh
  | _ => exact .inr ⟨h, rfl⟩

end Hand

namespace Session

/-- Whether an effect is permitted with something in hand. -/
def Handles (session : Session) (key : Aes256.Key) (hand : Hand) : Effect → Prop
  | .write _ _ | .remove _ => hand.holding = true
  | .hold => hand.holding = false
  | .send _ (.grant .refreshToken) request => ∃ blob token, hand.out = some blob ∧
      session.vault.content? key blob = some token ∧ session.Carries request (refreshParams token)
  | _ => True

/-- The watch over the refresh token. -/
def handling (session : Session) (key : Aes256.Key) : Watch Hand where
  permits := session.Handles key
  grants := session.vault.Keyed key
  next := Hand.after (session.vault.keyFor .refreshToken)

variable {session : Session} {key : Aes256.Key} {held : Bool} {has : Option Bytes → Prop}
  {hand : Hand}

variable (session key held has) in
/-- Whether a program meets the watch and leaves in hand what satisfies a condition. -/
abbrev Holds : (α : Type) → Program α → Prop :=
  (session.handling key).Keeps (Hand.Is held has) fun _ _ => True

/-- The key that the watch takes for granted. -/
theorem handling_own (other : Aes256.Key)
    (granted : (session.handling key).grants (.sealingKey session.vault.name) (.ok other)) :
    other = key := granted rfl

theorem closed_handling : Closed (session.Holds key held has) := by
  refine Watch.closed_keeps (fun _ => trivial) (fun _ _ => trivial) ?_
  intro hand effect plain start
  refine ⟨?_, fun reply => ⟨start.plain plain reply, trivial⟩⟩
  cases effect with
  | write | remove | hold | send => exact plain.elim
  | _ => trivial

/-! ### Slots -/

/-- Holding the store for the time of a program. -/
theorem handling_guarded {α : Type} {program : Program α}
    (h : session.Holds key true has α program) : session.Holds key false has α program.guarded := by
  intro hand start
  have held : ({ hand with holding := true, seen := none } : Hand).Is true has := ⟨rfl, start.2⟩
  refine Watch.meets_guarded start.1 ((h _ held).mono ?_)
  exact fun last _ ⟨kept, _⟩ => ⟨trivial, ⟨rfl, kept.2⟩, trivial⟩

section

variable {slot : Slot} (safe : slot = .refreshToken → ∀ out, has out)

include safe

theorem handling_remove : session.Holds key true has _ (session.vault.remove slot) := by
  intro hand start
  refine Watch.meets_remove start.1 fun reply => ⟨start.remove ?_ reply, trivial⟩
  exact fun same => safe (Vault.keyFor_injective _ same)

theorem handling_clear : session.Holds key false has _ (session.vault.clear slot) :=
  handling_guarded (handling_remove safe)

end

theorem handling_store {α : Type} [Record α] (slot : Slot) (value : α) :
    session.Holds key false has _ (session.vault.store slot value) := by
  refine handling_guarded fun hand start => ?_
  exact Watch.meets_write handling_own trivial (fun _ => ⟨start, trivial⟩)
    fun nonce => ⟨trivial, start.1, fun reply => ⟨start, trivial⟩⟩

theorem handling_send {connection : Connection} {purpose : Purpose} {request : Request}
    (other : purpose ≠ .grant .refreshToken) :
    session.Holds key held has _ (Program.send connection purpose request) := by
  intro hand start
  refine ⟨?_, fun reply _ => ⟨?_, trivial⟩⟩
  · show session.Handles key hand _
    cases purpose with
    | grant presented =>
      cases presented with
      | refreshToken => exact absurd rfl other
      | _ => trivial
    | _ => trivial
  · show (hand.after _ _ reply).Is held has
    rwa [Hand.after_send other]

section

variable (free : ∀ out, has out)

include free

theorem handling_removeKeys (names : List String) :
    session.Holds key true has _ (Vault.removeKeys names) := by
  have closed : Closed (session.Holds key true has) := closed_handling
  induction names with
  | nil => exact closed.pure ()
  | cons name names ih =>
    refine closed.bind (closed.about fun hand start => ⟨start.1, fun reply _ => ?_⟩) fun _ => ih
    exact ⟨start.remove (fun _ => free) reply, trivial⟩

theorem handling_clearAll : session.Holds key false has _ session.vault.clearAll := by
  have closed : Closed (session.Holds key true has) := closed_handling
  refine handling_guarded (closed.bind (closed.about fun hand start => ?_) fun names =>
    handling_removeKeys free names)
  exact ⟨trivial, fun _ _ => ⟨start, trivial⟩⟩

end

/-! ### Taking the refresh token out -/

/-- What is read while the store is held is the content of what is seen. -/
theorem handling_read (start : hand.holding = true) :
    (session.vault.read .refreshToken : Program (Option String)).Meets (session.handling key)
      (fun last result => last.holding = true ∧ ∀ token, result = .ok (some token) →
        ∃ blob, last.seen = some blob ∧ session.vault.content? key blob = some token) hand := by
  have read (found : Option Bytes) : (session.handling key).next hand
      (.read (session.vault.keyFor .refreshToken)) (.ok found) = { hand with seen := found } :=
    Hand.after_read_self start found
  refine Watch.meets_read handling_own trivial (fun _ => trivial)
    (fun _ => ⟨start, nofun⟩) ?_ (fun blob _ _ => ?_) (fun blob _ => ?_)
    fun blob result content => ?_
  all_goals rw [read]
  · exact ⟨start, nofun⟩
  · exact ⟨start, nofun⟩
  · exact ⟨start, nofun⟩
  · refine ⟨start, ?_⟩
    rintro token rfl
    refine ⟨blob, rfl, ?_⟩
    split at content
    next value found =>
      rw [found]
      exact (Except.ok.inj content).symm
    · obtain ⟨_, failed⟩ := content
      cases failed

/-- **A token that is given out** is in hand: its blob was found and removed while the store was
held. -/
theorem handling_takeRefreshToken (start : hand.holding = false) :
    session.takeRefreshToken.Meets (session.handling key) (fun last result =>
      last.holding = false ∧ ∀ token, result = .ok (some token) → ∃ blob, last.out = some blob ∧
        session.vault.content? key blob = some token) hand := by
  have removed {post : Hand → Except Error Unit → Prop} {last : Hand}
      (holding : last.holding = true)
      (failed : ∀ error, post { last with seen := none } (.error error))
      (gone : post { last with seen := none, out := last.seen } (.ok ())) :
      (session.vault.remove .refreshToken).Meets (session.handling key) post last := by
    refine Watch.meets_remove holding fun reply => ?_
    cases reply with
    | error error =>
      have same : (session.handling key).next last
          (.remove (session.vault.keyFor .refreshToken)) (.error error) =
            { last with seen := none } := if_pos rfl
      rw [same]
      exact failed _
    | ok _ =>
      have same : (session.handling key).next last
          (.remove (session.vault.keyFor .refreshToken)) (.ok ()) =
            { last with seen := none, out := last.seen } := Hand.after_remove_self
      rw [same]
      exact gone
  have taken : session.vault.takeRefreshToken.Meets (session.handling key) (fun last result =>
      last.holding = false ∧ ∀ token, result = .ok (some token) → ∃ blob, last.out = some blob ∧
        session.vault.content? key blob = some token) hand := by
    refine Watch.meets_guarded start (Meets.rescue ((handling_read rfl).mono ?_))
    intro last result ⟨holding, found⟩
    split
    · exact ⟨trivial, rfl, nofun⟩
    next token =>
      refine Meets.bind (removed holding (fun _ => ⟨trivial, rfl, nofun⟩) ⟨trivial, rfl, ?_⟩)
      rintro _ ⟨⟩
      exact found token rfl
    · exact Meets.bind (removed holding (fun _ => ⟨trivial, rfl, nofun⟩) ⟨trivial, rfl, nofun⟩)
    · exact ⟨trivial, rfl, nofun⟩
  refine Meets.rescue (taken.mono fun last result ⟨free, found⟩ => ?_)
  split
  · exact ⟨free, nofun⟩
  · exact ⟨free, found⟩

/-! ### A token that is not given out -/

/-- Whether an event neither writes, nor takes or lets go of the store, nor empties a slot. -/
def Spares (slotKey : String) : Event → Prop
  | ⟨.write _ _, _⟩ | ⟨.hold, _⟩ | ⟨.release, _⟩ => False
  | ⟨.remove name, .ok _⟩ => name ≠ slotKey
  | _ => True

/-- An event that spares a slot does not write there, and removes nothing unless it fails. -/
theorem Spares.cases {slotKey : String} {event : Event} (h : Spares slotKey event) :
    (∀ value, event.effect ≠ .write slotKey value) ∧ (event.effect ≠ .remove slotKey ∨
      ∃ source, event = ⟨.remove slotKey, .error source⟩) := by
  obtain ⟨effect, reply⟩ := event
  cases effect with
  | write | hold | release => exact h.elim
  | remove name =>
    refine ⟨nofun, ?_⟩
    by_cases same : name = slotKey
    · subst same
      cases reply with
      | error source => exact .inr ⟨source, rfl⟩
      | ok _ => exact absurd rfl h
    · exact .inl fun removes => same (Effect.remove.inj removes)
  | _ => exact ⟨nofun, .inl nofun⟩

/-- The watch that marks whether all events spare the slot of the refresh token. -/
def sparing (session : Session) : Watch Prop where
  permits _ _ := True
  grants _ _ := True
  next spared effect reply :=
    spared ∧ Spares (session.vault.keyFor .refreshToken) ⟨effect, reply⟩

theorem spares_of_markAfter {spared : Prop} {events : List Event}
    (h : session.sparing.markAfter spared events) :
    spared ∧ ∀ event ∈ events, Spares (session.vault.keyFor .refreshToken) event := by
  induction events generalizing spared with
  | nil => exact ⟨h, fun _ mem => absurd mem List.not_mem_nil⟩
  | cons event events ih =>
    obtain ⟨⟨before, here⟩, later⟩ := ih h
    exact ⟨before, List.forall_mem_cons.2 ⟨here, later⟩⟩

theorem closed_sparing : Closed (session.sparing.Keeps (fun spared => spared) fun _ _ => True) := by
  refine Watch.closed_keeps (fun _ => trivial) (fun _ _ => trivial) ?_
  intro spared effect plain start
  refine ⟨trivial, fun reply => ⟨⟨start, ?_⟩, trivial⟩⟩
  cases effect with
  | write | remove | list | hold | release | send => exact plain.elim
  | _ => trivial

/-- **A take that fails** has spared the slot: it has held the store and let go of it, and removed
nothing. -/
theorem ends_takeRefreshToken_error {events : List Event} {error : Error}
    (ends : session.takeRefreshToken.Ends events (.error error)) :
    ∃ within, events = ⟨.hold, ()⟩ :: (within ++ [⟨.release, ()⟩]) ∧
      ∀ event ∈ within, Spares (session.vault.keyFor .refreshToken) event := by
  obtain ⟨result, early, late, rfl, taken, rest⟩ := Program.Ends.of_rescue ends
  -- What was unreadable counts as absent, so that the error is another one.
  have other : late = [] ∧ ∃ error, result = .error error ∧
      ∀ detail, error ≠ .integrity detail := by
    split at rest
    · obtain ⟨rfl, failed⟩ := rest
      cases failed
    next readable =>
      obtain ⟨rfl, rfl⟩ := rest
      exact ⟨rfl, error, rfl, fun detail same => readable detail (same ▸ rfl)⟩
  obtain ⟨rfl, failure, rfl, readable⟩ := other
  obtain ⟨within, rfl, inner⟩ := Program.Ends.of_guarded taken
  have spared {program : Program (Option String)} (path : program.Ends within (.error failure))
      (met : program.Meets session.sparing (fun last result => ∀ error, result = .error error →
        (∀ detail, error ≠ .integrity detail) → last) True) :
      ∀ event ∈ within, Spares (session.vault.keyFor .refreshToken) event :=
    (spares_of_markAfter ((met.ends (fun _ _ => trivial) path).1 failure rfl readable)).2
  refine ⟨within, List.append_nil _, spared inner ?_⟩
  refine Meets.rescue ((closed_sparing.read _ _ True trivial).mono ?_)
  intro last result ⟨kept, _⟩
  split
  · exact nofun
  · refine Meets.bind (Watch.meets_remove trivial fun reply => ?_)
    cases reply with
    | error source => exact fun _ _ _ => ⟨kept, trivial⟩
    | ok _ => exact nofun
  · refine Meets.bind (Watch.meets_remove trivial fun reply => ?_)
    cases reply with
    | error source => exact fun _ _ _ => ⟨kept, trivial⟩
    | ok _ =>
      rintro _ ⟨⟩ readable
      exact absurd rfl (readable _)
  · exact fun _ _ _ => kept

/-! ### Everything an engine does -/

section

variable (key)

/-- **Elements** meet the watch. -/
theorem handling_elements : session.Elements (session.Holds key false fun _ => True) where
  toFormed := closed_handling.toFormed
  clear _ _ := handling_clear fun _ _ => trivial
  deviceIdentity := closed_handling.deviceIdentity (handling_clear fun _ _ => trivial)
  connection := closed_handling.connection
    (closed_handling.deviceIdentity (handling_clear fun _ _ => trivial))
  setClientCredential _ := handling_store _ _
  setRefreshToken _ := handling_store _ _
  acceptIdToken := closed_handling.acceptIdToken (handling_clear fun _ _ => trivial)
    fun _ => handling_store _ _
  housekeeping {purpose} connection request housekeeping := by
    refine handling_send ?_
    rintro rfl
    cases housekeeping

theorem handling_setAccessToken (token : AccessToken) :
    session.Holds key false (fun _ => True) _ (session.setAccessToken token) :=
  closed_handling.bind (handling_store _ _) fun _ => closed_handling.dropUser

/-- A grant for a token that is in hand. -/
theorem handling_grant {blob : Bytes} {token : String} (start : hand.Is false (· = some blob))
    (content : session.vault.content? key blob = some token) (client : ClientCredential) :
    (session.grant client .refreshToken (refreshParams token)).Meets (session.handling key)
      (fun last _ => last.Is false (fun _ => True) ∧ True) hand := by
  -- The slot is left alone until the token is presented.
  have closed : Closed (session.Holds key false (· = some blob)) := closed_handling
  have clear : session.Holds key false (· = some blob) _ (session.vault.clear .deviceIdentity) :=
    handling_clear nofun
  have elements : session.Elements (session.Holds key false fun _ => True) := handling_elements key
  refine Meets.bind ((Watch.Keeps.withDeviceHeaders closed clear start _).mono ?_)
  rintro before (error | request) ⟨⟨kept, -⟩, same⟩
  · exact ⟨⟨kept.1, trivial⟩, trivial⟩
  have carries : session.Carries request (refreshParams token) := same request rfl
  have sent : (session.sendChecked (.grant .refreshToken) request).Meets (session.handling key)
      (fun last _ => last.Is false fun _ => True) before := by
    refine Meets.bind (Watch.Keeps.bind (closed.connection (closed.deviceIdentity clear)) kept
      (fun _ _ kept _ => ⟨kept.1, trivial⟩) fun last connection kept _ => ?_)
    refine ⟨⟨blob, token, kept.2, content, carries⟩, fun reply _ => ?_⟩
    cases reply with
    | error error => exact ⟨kept.1, trivial⟩
    | ok response => exact ⟨kept.1, trivial⟩
  refine Meets.bind (sent.mono ?_)
  rintro after (error | response) kept
  · exact ⟨kept, trivial⟩
  have accepted : session.Holds key false (fun _ => True) _ (do
      let grant ← .ofExcept (TokenGrant.ofBody response.body)
      session.acceptGrant grant) :=
    elements.bind (elements.ofExcept _) fun _ =>
      elements.acceptGrant fun _ => handling_setAccessToken key _
  exact accepted after kept

/-- **A refresh token is presented** only while its blob is in hand. -/
theorem handling_grantByRefreshToken (client : ClientCredential) :
    session.Holds key false (fun _ => True) _ (session.grantByRefreshToken client) := by
  intro hand start
  refine Meets.bind ((handling_takeRefreshToken start.1).mono ?_)
  rintro taken (error | (_ | token)) ⟨free, found⟩
  · exact ⟨⟨free, trivial⟩, trivial⟩
  · exact ⟨⟨free, trivial⟩, trivial⟩
  obtain ⟨blob, out, content⟩ := found token rfl
  refine Meets.rescue ((handling_grant key ⟨free, out⟩ content client).mono ?_)
  intro last result met
  split
  · exact met
  · split
    · exact met
    · exact met

/-- **The parts of an attempt** meet the watch. -/
theorem handling_parts : session.Parts (session.Holds key false fun _ => True) where
  toElements := handling_elements key
  clearDeviceIdentity := handling_clear fun _ _ => trivial
  register := (handling_elements key).register fun _ => handling_store _ _
  grantByRefreshToken := handling_grantByRefreshToken key
  grantByIdToken := (handling_elements key).grantByIdToken (handling_setAccessToken key)
    fun _ _ => handling_send nofun
  grantByUser := (handling_elements key).grantByUser (handling_setAccessToken key)
    fun _ _ => handling_send nofun

/-- **Everything an engine does** meets the watch. -/
theorem handling_whole : session.Whole (session.Holds key false fun _ => True) where
  toParts := handling_parts key
  setAccessToken := handling_setAccessToken key
  setDeviceIdentity _ := handling_store _ _
  setConfiguredClientId _ := handling_store _ _
  round := (handling_parts key).round fun _ _ _ => handling_send nofun
  clearAll := handling_clearAll fun _ => trivial
  takeRefreshToken _ start := (handling_takeRefreshToken start.1).mono fun _ _ ⟨free, _⟩ =>
    ⟨⟨free, trivial⟩, trivial⟩
  revokeIdToken := (handling_elements key).revokeIdToken fun _ _ => handling_send nofun

end

end Session

end GatewaySession
