import GatewaySession.Gateway.Message

/-!
# The headers of a request

A caller may give a header several times and in several spellings. Setting one replaces all of them
by a single one, in the spelling in which it is set, and nothing else of the request changes: the
headers of other names stay in their order, and so do method, address, body and the public mark.

## Main definitions

* `Request.under` — the headers of a name, in any spelling
* `Request.besides` — the headers of other names
* `Request.bare` — everything of a request but its headers
* `Request.overridden` — the headers of a name once a value, if there is one, is set

## Main results

* `Request.under_setHeader`, `Request.under_setHeader_of_not_same`, `Request.besides_setHeader` —
  what setting a header does to the others
-/

namespace GatewaySession

namespace Header

variable {first second third : String}

theorem same_eq_true : same first second = true ↔ lower first = lower second := beq_iff_eq

@[simp] theorem same_self (name : String) : same name name = true := same_eq_true.2 rfl

/-- Spellings of one name are spellings of no other. -/
theorem not_same_of_same (h : same first second = true) (differs : same second third = false) :
    same first third = false := by
  rw [same, same_eq_true.1 h]
  exact differs

end Header

namespace Request

variable {request : Request} {name other value : String} {names : List String}

/-- The headers of a name, in order. -/
def under (request : Request) (name : String) : List (String × String) :=
  request.headers.filter fun header => Header.same header.1 name

/-- The headers of none of some names, in order. -/
def besides (request : Request) (names : List String) : List (String × String) :=
  request.headers.filter fun header => names.all fun name => !Header.same header.1 name

/-- Everything of a request but its headers. -/
def bare (request : Request) : Request := { request with headers := [] }

/-- The headers of a name once a value is set, if there is one. -/
def overridden (request : Request) (name : String) : Option String → List (String × String)
  | some value => [(name, value)]
  | none => request.under name

/-- **A header that is set** is there once, with its value. -/
theorem under_setHeader (request : Request) (name value : String) :
    (request.setHeader name value).under name = [(name, value)] := by
  have gone : (request.headers.filter fun header => !Header.same header.1 name).filter
      (fun header => Header.same header.1 name) = [] := by
    simp [List.filter_filter]
  rw [under, setHeader, List.filter_append, gone, List.nil_append]
  simp

/-- **Headers of another name** stay, in order. -/
theorem under_setHeader_of_not_same (differs : Header.same other name = false) :
    (request.setHeader name value).under other = request.under other := by
  have kept (header : String × String) (own : Header.same header.1 other = true) :
      (!Header.same header.1 name) = true := by
    rw [Header.not_same_of_same own differs, Bool.not_false]
  have unset : Header.same name other = false := by
    rw [Header.same, beq_eq_false_iff_ne] at differs ⊢
    exact differs.symm
  rw [under, setHeader, List.filter_append, List.filter_filter, under]
  simp only [List.filter_cons, unset, Bool.false_eq_true, if_false, List.filter_nil,
    List.append_nil]
  refine List.filter_congr fun header _ => ?_
  cases own : Header.same header.1 other with
  | false => rfl
  | true => rw [kept header own, Bool.and_self]

/-- **Headers of none of some names** stay, in order, where one of these is set. -/
theorem besides_setHeader (mem : name ∈ names) :
    (request.setHeader name value).besides names = request.besides names := by
  have own : (names.all fun other => !Header.same name other) = false := by
    rw [List.all_eq_false]
    exact ⟨name, mem, by simp⟩
  rw [besides, setHeader, List.filter_append, List.filter_filter, besides]
  simp only [List.filter_cons, own, Bool.false_eq_true, if_false, List.filter_nil, List.append_nil]
  refine List.filter_congr fun header _ => ?_
  cases spared : names.all fun other => !Header.same header.1 other with
  | false => rfl
  | true => rw [List.all_eq_true.1 spared name mem, Bool.and_self]

@[simp] theorem bare_setHeader : (request.setHeader name value).bare = request.bare := rfl

end Request

end GatewaySession
