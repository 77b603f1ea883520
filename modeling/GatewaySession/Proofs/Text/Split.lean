import GatewaySession.Text.Blank
import GatewaySession.Text.Split
import Mathlib.Data.List.Basic
import Mathlib.Data.List.TakeWhile

/-!
# Pieces of a text

Splitting at a separator is undone by joining with it, and joining pieces that do not contain the
separator is undone by splitting. So the pieces of a text are characterised by what they join to,
without a word on how they are found. Likewise for trimming: what is cut off at the end is a run of
the one character.

## Main definitions

* `Text.Joins` — whether a text is made of pieces with a separator between them

## Main results

* `Text.split_eq_iff` — the pieces of a text
* `Text.splitChars_append` — the pieces of two texts with a separator between them
* `Text.trimEnd_eq_of_append`, `Text.exists_append_trimEnd` — what is cut off
-/

namespace GatewaySession

namespace Text

/-! ### Splitting -/

section

variable {separator : Char}

theorem splitChars_ne_nil (text : List Char) : splitChars separator text ≠ [] := by
  cases text with
  | nil => nofun
  | cons c rest =>
    rw [splitChars]
    split
    · nofun
    · split <;> nofun

/-- A character that is no separator goes to the first piece. -/
theorem splitChars_cons {c : Char} (other : c ≠ separator) {rest piece : List Char}
    {pieces : List (List Char)} (h : splitChars separator rest = piece :: pieces) :
    splitChars separator (c :: rest) = (c :: piece) :: pieces := by
  rw [splitChars, if_neg other, h]

/-- **A separator** ends a piece. -/
theorem splitChars_append (first second : List Char) :
    splitChars separator (first ++ separator :: second) =
      splitChars separator first ++ splitChars separator second := by
  induction first with
  | nil =>
    show splitChars separator (separator :: second) = [] :: splitChars separator second
    rw [splitChars, if_pos rfl]
  | cons c first ih =>
    by_cases same : c = separator
    · rw [List.cons_append, splitChars, if_pos same, ih, splitChars, if_pos same, List.cons_append]
    · obtain ⟨piece, pieces, split⟩ := List.exists_cons_of_ne_nil (splitChars_ne_nil first)
      rw [split] at ih
      rw [splitChars_cons same split, List.cons_append, List.cons_append]
      exact splitChars_cons same ih

/-- A text without a separator is one piece. -/
theorem splitChars_of_notMem {text : List Char} (h : separator ∉ text) :
    splitChars separator text = [text] := by
  induction text with
  | nil => rfl
  | cons c text ih =>
    obtain ⟨other, rest⟩ := List.ne_and_not_mem_of_not_mem_cons h
    exact splitChars_cons other.symm (ih rest)

/-- No piece contains the separator. -/
theorem notMem_of_mem_splitChars {text piece : List Char}
    (h : piece ∈ splitChars separator text) : separator ∉ piece := by
  induction text generalizing piece with
  | nil =>
    rw [List.mem_singleton.1 h]
    exact List.not_mem_nil
  | cons c text ih =>
    rw [splitChars] at h
    split at h
    · obtain rfl | h := List.mem_cons.1 h
      · exact List.not_mem_nil
      · exact ih h
    next other =>
    split at h
    next first pieces split =>
      obtain rfl | h := List.mem_cons.1 h
      · rw [List.mem_cons, not_or]
        exact ⟨fun same => other same.symm, ih (split ▸ List.mem_cons_self)⟩
      · exact ih (split ▸ List.mem_cons_of_mem _ h)
    next split => exact absurd split (splitChars_ne_nil text)

/-- Joining the pieces of a text gives the text. -/
theorem intercalate_splitChars (text : List Char) :
    [separator].intercalate (splitChars separator text) = text := by
  induction text with
  | nil => rfl
  | cons c text ih =>
    obtain ⟨piece, pieces, split⟩ := List.exists_cons_of_ne_nil (splitChars_ne_nil text)
    rw [split] at ih
    rw [splitChars]
    split_ifs with same
    · rw [split, List.intercalate_cons_cons, ih, same]
      rfl
    · rw [split]
      cases pieces with
      | nil => simpa using ih
      | cons second pieces =>
        rw [List.intercalate_cons_cons] at ih ⊢
        rw [← ih]
        rfl

/-- Splitting joined pieces gives the pieces. -/
theorem splitChars_intercalate {pieces : List (List Char)} (some_piece : pieces ≠ [])
    (h : ∀ piece ∈ pieces, separator ∉ piece) :
    splitChars separator ([separator].intercalate pieces) = pieces := by
  induction pieces with
  | nil => exact absurd rfl some_piece
  | cons piece pieces ih =>
    obtain ⟨first, rest⟩ := List.forall_mem_cons.1 h
    cases pieces with
    | nil => simpa using splitChars_of_notMem first
    | cons second pieces =>
      rw [List.intercalate_cons_cons, List.append_assoc, List.singleton_append, splitChars_append,
        splitChars_of_notMem first, ih nofun rest]
      rfl

end

/-- Whether a text is made of pieces, with a separator between them and none within. -/
structure Joins (separator : Char) (text : String) (pieces : List String) : Prop where
  /-- There is a piece. -/
  ne_nil : pieces ≠ []
  /-- No piece contains the separator. -/
  notMem : ∀ piece ∈ pieces, separator ∉ piece.toList
  /-- Joining the pieces gives the text. -/
  join : text.toList = [separator].intercalate (pieces.map String.toList)

/-- **The pieces of a text** are those that it is made of. -/
theorem split_eq_iff {separator : Char} {text : String} {pieces : List String} :
    split separator text = pieces ↔ Joins separator text pieces := by
  have chars (pieces : List (List Char)) :
      (pieces.map String.ofList).map String.toList = pieces := by
    simp [Function.comp_def]
  constructor
  · rintro rfl
    refine ⟨fun empty => splitChars_ne_nil text.toList (List.map_eq_nil_iff.1 empty),
      fun piece mem => ?_, ?_⟩
    · obtain ⟨within, inner, rfl⟩ := List.mem_map.1 mem
      rw [String.toList_ofList]
      exact notMem_of_mem_splitChars inner
    · rw [split, chars, intercalate_splitChars]
  · rintro ⟨some_piece, notMem, join⟩
    have nonempty : pieces.map String.toList ≠ [] := fun empty =>
      some_piece (List.map_eq_nil_iff.1 empty)
    have free : ∀ piece ∈ pieces.map String.toList, separator ∉ piece := by
      intro piece mem
      obtain ⟨inner, given, rfl⟩ := List.mem_map.1 mem
      exact notMem inner given
    rw [split, join, splitChars_intercalate nonempty free]
    simp [Function.comp_def]

/-- A text has one list of pieces. -/
theorem Joins.unique {separator : Char} {text : String} {pieces others : List String}
    (h : Joins separator text pieces) (h' : Joins separator text others) : pieces = others :=
  (split_eq_iff.2 h).symm.trans (split_eq_iff.2 h')

/-! ### Trimming -/

/-- What is cut off at the end is a run of the character. -/
theorem exists_append_trimEnd (c : Char) (text : String) :
    ∃ count, text.toList = (trimEnd c text).toList ++ List.replicate count c := by
  refine ⟨(text.toList.reverse.takeWhile (· == c)).length, ?_⟩
  have run : text.toList.reverse.takeWhile (· == c) =
      List.replicate (text.toList.reverse.takeWhile (· == c)).length c :=
    List.eq_replicate_of_mem fun d mem => by simpa using List.mem_takeWhile_imp mem
  rw [trimEnd, String.toList_ofList, dropEndWhile, ← List.reverse_replicate, ← List.reverse_append,
    ← run, List.takeWhile_append_dropWhile, List.reverse_reverse]

/-- Of a text without the character nothing but the run after it is cut off. -/
theorem trimEnd_eq_of_append {c : Char} {text : String} {kept : List Char} {count : Nat}
    (h : text.toList = kept ++ List.replicate count c) (free : c ∉ kept) :
    trimEnd c text = String.ofList kept := by
  rw [trimEnd, dropEndWhile, h, List.reverse_append, List.reverse_replicate,
    List.dropWhile_append_of_pos (by simp)]
  have stays : kept.reverse.dropWhile (· == c) = kept.reverse := by
    cases reversed : kept.reverse with
    | nil => rfl
    | cons last rest =>
      have mem : last ∈ kept := List.mem_reverse.1 (reversed ▸ List.mem_cons_self)
      rw [List.dropWhile_cons_of_neg]
      simp only [beq_iff_eq]
      rintro rfl
      exact free mem
  rw [stays, List.reverse_reverse]

end Text

end GatewaySession
