import GatewaySession.Proofs.Program.Trace

/-!
# Programs and what has happened before

A watch may keep all that has happened as its mark. It permits an effect by what came before it, and
when a program ends, what the program has done is a path through it. So what one part of a program
does can be used when the next is looked at, without a mark made for the purpose.

Much of what a program does goes back to a value that an earlier part of it gave, such as a record
that was read. It is the last value of that part if what the part begins with was not done again
since. There is one last value at most if the part itself does this but once.

## Main definitions

* `Watch.ofPast` — a watch whose mark is all that has happened
* `Program.first?`, `Program.LastGave` — how a program begins, and the last value it gave
* `Program.BeginsOnce` — what a program begins with is done once

## Main results

* `Program.Meets.path` — what a program has done is a path through it
* `Program.LastGave.append` — a value is still the last after anything else
* `Program.LastGave.unique` — there is one last value at most
-/

namespace GatewaySession

variable {α β γ : Type}

/-! ### Watching -/

/-- The watch whose mark is all that has happened. It takes nothing for granted. -/
def Watch.ofPast (permits : List Event → Effect → Prop) : Watch (List Event) where
  permits := permits
  grants _ _ := True
  next past effect reply := past ++ [⟨effect, reply⟩]

variable {permits : List Event → Effect → Prop} {past events : List Event}

theorem Watch.markAfter_ofPast :
    (Watch.ofPast permits).markAfter past events = past ++ events := by
  induction events generalizing past with
  | nil => exact (List.append_nil past).symm
  | cons event events ih => exact ih.trans (List.append_assoc past [event] events)

namespace Program

variable {program : Program α}

/-- **What a program has done** is a path through it. -/
theorem Meets.path {post : List Event → Except Error α → Prop}
    (h : program.Meets (.ofPast permits) post past) :
    program.Meets (.ofPast permits) (fun last result => post last result ∧
      ∃ path, last = past ++ path ∧ program.Ends path result) past := by
  induction program generalizing past with
  | done result => exact ⟨h, [], (List.append_nil past).symm, rfl, rfl⟩
  | perform effect next ih =>
    refine ⟨h.1, fun reply granted => (ih reply (h.2 reply granted)).mono ?_⟩
    rintro last result ⟨met, path, rfl, ends⟩
    exact ⟨met, ⟨effect, reply⟩ :: path, List.append_assoc past _ path, reply, path, rfl, ends⟩

/-- One program after another, where nothing is asked of the end. -/
theorem Meets.follow {watch : Watch γ} {mark : γ} {post : γ → Except Error α → Prop}
    {f : α → Program β} (h : program.Meets watch post mark)
    (hf : ∀ last a, post last (.ok a) → (f a).Meets watch (fun _ _ => True) last) :
    (program >>= f).Meets watch (fun _ _ => True) mark := by
  refine Meets.bind (h.mono ?_)
  rintro last (error | a) met
  · trivial
  · exact hf last a met

/-! ### Values that were given -/

/-- The effect that a program begins with. -/
def first? : Program α → Option Effect
  | done _ => none
  | perform effect _ => some effect

/-- Whether a program gave a value, and was not begun again since. -/
def LastGave (program : Program α) (value : α) (past : List Event) : Prop :=
  ∃ early within late, past = early ++ (within ++ late) ∧ program.Ends within (.ok value) ∧
    ∀ event ∈ late, program.first? ≠ some event.effect

/-- What a program has just given is the last that it gave, if it did not begin again since. -/
theorem Ends.lastGave {value : α} (ends : program.Ends events (.ok value)) (before : List Event)
    {after : List Event} (other : ∀ event ∈ after, program.first? ≠ some event.effect) :
    program.LastGave value (before ++ (events ++ after)) :=
  ⟨before, events, after, rfl, ends, other⟩

/-- **A value is still the last** after anything else. -/
theorem LastGave.append {own : Effect → Prop} {effect : Effect} {value : α} {path : List Event}
    (given : program.LastGave value past) (begins : program.first? = some effect)
    (after : ∀ event ∈ path, own event.effect) (other : ¬own effect) :
    program.LastGave value (past ++ path) := by
  obtain ⟨early, within, late, rfl, ends, since⟩ := given
  have more : ∀ event ∈ late ++ path, program.first? ≠ some event.effect := by
    refine List.forall_mem_append.2 ⟨since, fun event mem same => other ?_⟩
    obtain rfl := Option.some.inj (begins.symm.trans same)
    exact after event mem
  rw [List.append_assoc, List.append_assoc]
  exact ends.lastGave early more

/-- What an effect has just been answered with is the last that it gave. -/
theorem LastGave.of_ask (effect : Effect) (reply : effect.Reply) (past : List Event) :
    (ask effect).LastGave reply (past ++ [⟨effect, reply⟩]) :=
  ⟨past, [⟨effect, reply⟩], [], rfl, ⟨reply, [], rfl, rfl, rfl⟩, List.forall_mem_nil _⟩

/-- The value that an effect gave is an answer to it. -/
theorem LastGave.mem_of_ask {effect : Effect} {reply : effect.Reply}
    (given : (ask effect).LastGave reply past) : ⟨effect, reply⟩ ∈ past := by
  obtain ⟨early, within, late, rfl, ⟨_, _, rfl, rfl, same⟩, -⟩ := given
  cases same
  exact List.mem_append_right _ List.mem_cons_self

/-! #### One last value -/

/-- Whether what a program begins with is done once on every path. -/
def BeginsOnce (program : Program α) : Prop :=
  ∀ events result, program.Ends events result →
    ∀ event ∈ events.tail, program.first? ≠ some event.effect

theorem beginsOnce_ask (effect : Effect) : (ask effect).BeginsOnce := by
  rintro _ result ⟨reply, _, rfl, rfl, -⟩
  exact List.forall_mem_nil _

/-- Where two paths begin alike as far as they go, they end alike. -/
theorem Ends.unique {events' late late' : List Event} {result result' : Except Error α}
    (h : program.Ends events result) (h' : program.Ends events' result')
    (same : events ++ late = events' ++ late') : result = result' := by
  induction program generalizing events events' with
  | done last =>
    obtain ⟨-, rfl⟩ := h
    exact h'.2
  | perform effect next ih =>
    obtain ⟨reply, rest, rfl, h⟩ := h
    obtain ⟨reply', rest', rfl, h'⟩ := h'
    obtain ⟨here, rests⟩ := List.cons.inj same
    cases here
    exact ih reply h h' rests

/-- What is left of a list from the last of a kind on. -/
theorem eq_of_last {kind : α → Prop} {early early' late late' : List α} {a a' : α}
    (same : early ++ a :: late = early' ++ a' :: late') (last : ∀ later ∈ late, ¬kind later)
    (last' : ∀ later ∈ late', ¬kind later) (here : kind a) (here' : kind a') :
    a :: late = a' :: late' := by
  obtain ⟨mid, -, rest⟩ | ⟨mid, -, rest⟩ := List.append_eq_append_iff.1 same
  · cases mid with
    | nil => exact rest
    | cons first mid =>
      obtain ⟨-, rfl⟩ := List.cons.inj rest
      exact absurd here' (last _ (List.mem_append_right _ List.mem_cons_self))
  · cases mid with
    | nil => exact rest.symm
    | cons first mid =>
      obtain ⟨-, rfl⟩ := List.cons.inj rest
      exact absurd here (last' _ (List.mem_append_right _ List.mem_cons_self))

/-- **There is one last value at most.** -/
theorem LastGave.unique {value value' : α} (once : program.BeginsOnce)
    (h : program.LastGave value past) (h' : program.LastGave value' past) : value = value' := by
  obtain ⟨early, within, late, rfl, ends, since⟩ := h
  obtain ⟨early', within', late', same, ends', since'⟩ := h'
  cases program with
  | done result => exact Except.ok.inj (ends.2.symm.trans ends'.2)
  | perform effect next =>
    have others {rest late : List Event} {reply : effect.Reply} {last : Except Error α}
        (ends : (perform effect next).Ends (⟨effect, reply⟩ :: rest) last)
        (since : ∀ event ∈ late, (perform effect next).first? ≠ some event.effect) :
        ∀ event ∈ rest ++ late, ¬event.effect = effect :=
      fun event mem same => List.forall_mem_append.2 ⟨once _ _ ends, since⟩ event mem
        (congrArg some same.symm)
    have begun := ends
    obtain ⟨reply, rest, rfl, -⟩ := begun
    have begun' := ends'
    obtain ⟨reply', rest', rfl, -⟩ := begun'
    exact Except.ok.inj (ends.unique ends'
      (eq_of_last same (others ends since) (others ends' since') rfl rfl))

end Program

end GatewaySession
