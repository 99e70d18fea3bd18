import Weblog.Proofs.Route.ContentType

/-!
# Weblog.Proofs.Route.Body

What is read of a body, and how much of it.

* `Format.Holds`: a body that is well formed, however long it is, and what it holds.
* `Format.limit`, `Format.fields_of_holds`: it is read up to the limit of its format.
* `bodyFields_of_long`: a body that is too long for every format.
-/

namespace Weblog
namespace Arguments

variable {r : Http.Request}

theorem readBody_of_le {limit : Nat} (h : r.body.size ≤ min limit r.limit) (e : BodyError) :
    readBody limit e r = .ok r.body.data.toList := if_neg (Nat.not_lt.2 h)

theorem readBody_of_lt {limit : Nat} (h : min limit r.limit < r.body.size) (e : BodyError) :
    readBody limit e r = .error e := if_pos h

namespace Format

/-- How many octets of a body in a format are read. -/
def limit : Format → Nat
  | .json | .form => bodyLimit
  | .multipart => multipartLimit

/-- What is said of a body that is too long. -/
def sizeError : Format → BodyError
  | .json | .form => .tooLong
  | .multipart => .multipart

/-- The body of a request is well formed in a format, whatever its size, and holds these fields. -/
inductive Holds (r : Http.Request) : Format → Fields → Prop where
  | json {fs : Fields} :
      Json.parseBytes? r.body.data.toList = some (.object fs) → Holds r .json fs
  | form : Holds r .form (ofPairs (Http.Form.pairs r.body.data.toList))
  | multipart {boundary : List UInt8} {pairs : List (String × String)} :
      (Http.headerText? "content-type" r.headers).bind Http.Multipart.boundary? = some boundary →
      Http.Multipart.pairs? boundary r.body.data.toList = some pairs →
      Holds r .multipart (ofPairs pairs)

variable {f : Format} {fs : Fields}

theorem limit_le (f : Format) : f.limit ≤ bodyLimit := by
  cases f <;> decide

/-- A body that is well formed is read where it is not too long. -/
theorem fields_of_holds (h : f.Holds r fs) (hsize : r.body.size ≤ min f.limit r.limit) :
    f.fields r = .ok fs := by
  cases h with
  | json hparse => exact jsonFields_eq hsize hparse
  | form =>
    have hread := readBody_of_le hsize .tooLong
    simp only [fields, formFields, limit] at hread ⊢
    rw [hread]
    rfl
  | multipart hboundary hpairs =>
    have hread := readBody_of_le hsize .multipart
    simp only [fields, multipartFields, limit] at hread ⊢
    simp only [hboundary, hread, bind, Except.bind, hpairs]

/-- Where it is too long, this is the error. -/
theorem fields_of_holds_long (h : f.Holds r fs) (hsize : min f.limit r.limit < r.body.size) :
    f.fields r = .error f.sizeError := by
  have hread := readBody_of_lt hsize f.sizeError
  cases h with
  | json => exact congrArg (· >>= _) hread
  | form => exact congrArg (· >>= _) hread
  | multipart hboundary =>
    simp only [fields, multipartFields, hboundary]
    exact congrArg (· >>= _) hread

/-- A body that is too long is not read, well formed or not. -/
theorem fields_of_long (h : min f.limit r.limit < r.body.size) :
    ∃ err, f.fields r = .error err := by
  have hread := readBody_of_lt h f.sizeError
  cases f with
  | json => exact ⟨_, congrArg (· >>= _) hread⟩
  | form => exact ⟨_, congrArg (· >>= _) hread⟩
  | multipart =>
    simp only [fields, multipartFields]
    cases (Http.headerText? "content-type" r.headers).bind Http.Multipart.boundary? with
    | none => exact ⟨_, rfl⟩
    | some boundary => exact ⟨_, congrArg (· >>= _) hread⟩

end Format

theorem bodyFields_of_long (h : min bodyLimit r.limit < r.body.size) :
    ∃ err, bodyFields r = .error err := by
  unfold bodyFields
  split
  · exact ⟨_, rfl⟩
  · split
    · rename_i f _
      have hlimit := f.limit_le
      exact f.fields_of_long (by omega)
    · exact ⟨_, rfl⟩

theorem inputFields_post (hmethod : r.method = .post) :
    inputFields r = (bodyFields r).map some := by
  rw [inputFields, hmethod]

end Arguments
end Weblog
