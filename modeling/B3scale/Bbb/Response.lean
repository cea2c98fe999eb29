/-
  b3scale formalization — the JSON decoders of the text-track responses
  (`pkg/bbb/response.go`).

  Both decoders hand `json.Unmarshal` a `JSONResponse` whose
  `Response interface{}` holds a fresh `*T`, then assert
  `res.Response.(*T)` without the comma-ok form. `encoding/json` decodes a
  value through a non-nil pointer held in an interface, except `null`, which
  sets the interface to `nil`; an interface holding no pointer is given a
  fresh generic value. A syntax error is found before anything is decoded.

  * `Iface.decode`: one member value decoded into `Response`;
  * `unmarshalResponse_eq_target_iff`: `Response` still holds the `*T` after
    `json.Unmarshal` exactly when no member named `response` (up to case
    folding) is `null`;
  * `decoders_panic_iff_null_response`: so both decoders panic exactly on
    such documents.
-/
import Mathlib.Data.List.Basic

namespace B3scale
namespace Bbb

/-- A JSON document, as `encoding/json`'s scanner accepts it. Object members
    keep their order and their duplicates. -/
inductive Json
  | null
  | bool (b : Bool)
  | num (lit : String)
  | str (s : String)
  | arr (xs : List Json)
  | obj (kvs : List (String × Json))

/-- The value is the literal `null`. -/
def Json.isNull : Json → Bool
  | .null => true
  | _ => false

/-- What `JSONResponse.Response` holds while `json.Unmarshal` runs: the `*T`
    it was given, `nil`, or a value of another dynamic type. -/
inductive Iface
  | target
  | nil
  | other
  deriving DecidableEq

/-- One value decoded into `Response` (`indirect`, then `literalStore`,
    `object` or `array`): `null` sets the interface to `nil`; any other value
    is decoded through the `*T` (into its struct, or a type error), or, with
    no pointer to follow, replaces the interface's value by a generic one. -/
def Iface.decode : Iface → Json → Iface
  | _, .null => .nil
  | .target, _ => .target
  | _, _ => .other

/-- `encoding/json`'s case folding of a key, as it matters for the field
    name `response`: ASCII letters fold to lower case, and `ſ` to `s`. -/
def foldChar (c : Char) : Char := if c = 'ſ' then 's' else c.toLower

/-- The member key selects the field tagged `response`. -/
def keyMatches (key : String) : Bool := key.data.map foldChar == "response".data

/-- `Response` after `json.Unmarshal(data, res)`; `none` is a document with a
    syntax error. A top-level value that is not an object decodes into the
    struct `JSONResponse` without touching the field. -/
def unmarshalResponse : Option Json → Iface
  | some (.obj kvs) => kvs.foldl (fun i kv => if keyMatches kv.1 then i.decode kv.2 else i) .target
  | _ => .target

/-- How a decoder ends: it returns `res.Response.(*T)` with the error of
    `json.Unmarshal`, or the type assertion panics. -/
inductive Outcome
  | returns
  | panics
  deriving DecidableEq

/-- The body both decoders share:
    `res := &JSONResponse{Response: &T{}}; err := json.Unmarshal(data, res);
    return res.Response.(*T), err`. -/
def unmarshalJSONResponse (doc : Option Json) : Outcome :=
  match unmarshalResponse doc with
  | .target => .returns
  | _ => .panics

/-- `UnmarshalGetRecordingTextTracksResponse`, with `T` the
    `GetRecordingTextTracksResponse`. -/
def unmarshalGetRecordingTextTracksResponse (doc : Option Json) : Outcome :=
  unmarshalJSONResponse doc

/-- `UnmarshalPutRecordingTextTrackResponse`, with `T` the
    `PutRecordingTextTrackResponse`. -/
def unmarshalPutRecordingTextTrackResponse (doc : Option Json) : Outcome :=
  unmarshalJSONResponse doc

theorem Iface.decode_eq_target {i : Iface} {v : Json} :
    i.decode v = .target ↔ i = .target ∧ v.isNull = false := by
  cases v <;> cases i <;> simp only [decode, Json.isNull] <;> decide

/-- Once `nil` or generic, `Response` never holds the `*T` again; while it
    does, only a matching `null` member takes it away. -/
theorem foldl_decode_eq_target (kvs : List (String × Json)) :
    ∀ i : Iface, kvs.foldl (fun i kv => if keyMatches kv.1 then i.decode kv.2 else i) i = .target ↔
      i = .target ∧ ∀ kv ∈ kvs, keyMatches kv.1 = true → kv.2.isNull = false := by
  induction kvs with
  | nil => simp
  | cons kv kvs ih =>
    intro i
    rw [List.foldl_cons, ih, List.forall_mem_cons]
    cases hk : keyMatches kv.1
    · simp only [Bool.false_eq_true, if_false, false_implies, true_and]
    · simp only [if_true, Iface.decode_eq_target, forall_const, and_assoc]

theorem unmarshalResponse_eq_target_iff (doc : Option Json) :
    unmarshalResponse doc = .target ↔
      ∀ kvs, doc = some (.obj kvs) → ∀ kv ∈ kvs, keyMatches kv.1 = true → kv.2.isNull = false := by
  unfold unmarshalResponse
  split
  · rw [foldl_decode_eq_target]
    simp only [true_and, Option.some.injEq, Json.obj.injEq, forall_eq']
  · rename_i h
    exact iff_of_true rfl fun kvs hd => absurd hd (h kvs)

theorem unmarshalJSONResponse_panics_iff (doc : Option Json) :
    unmarshalJSONResponse doc = .panics ↔
      ∃ kvs, doc = some (.obj kvs) ∧ ∃ kv ∈ kvs, keyMatches kv.1 = true ∧ kv.2.isNull = true := by
  have hp : unmarshalJSONResponse doc = .panics ↔ unmarshalResponse doc ≠ .target := by
    unfold unmarshalJSONResponse
    generalize unmarshalResponse doc = i
    cases i <;> decide
  rw [hp, Ne, unmarshalResponse_eq_target_iff]
  simp only [not_forall, Classical.not_imp, Bool.not_eq_false, exists_prop]

/-- **The decoders panic on a `null` response.** For every document, each
    decoder panics exactly when the document is an object with a member
    whose key folds to `response` and whose value is `null`; on every other
    input, a syntax error included, it returns. -/
theorem decoders_panic_iff_null_response (doc : Option Json) :
    (unmarshalGetRecordingTextTracksResponse doc = .panics ↔
      ∃ kvs, doc = some (.obj kvs) ∧ ∃ kv ∈ kvs, keyMatches kv.1 = true ∧ kv.2.isNull = true) ∧
    (unmarshalPutRecordingTextTrackResponse doc = .panics ↔
      ∃ kvs, doc = some (.obj kvs) ∧ ∃ kv ∈ kvs, keyMatches kv.1 = true ∧ kv.2.isNull = true) :=
  ⟨unmarshalJSONResponse_panics_iff doc, unmarshalJSONResponse_panics_iff doc⟩

/-- `{"response":null}` makes both decoders panic, and so does
    `{"Response":null}`. -/
theorem decoders_panic_on_null :
    unmarshalGetRecordingTextTracksResponse (some (.obj [("response", .null)])) = .panics ∧
    unmarshalPutRecordingTextTrackResponse (some (.obj [("Response", .null)])) = .panics :=
  ⟨(decoders_panic_iff_null_response _).1.2 ⟨_, rfl, _, .head _, by decide, rfl⟩,
    (decoders_panic_iff_null_response _).2.2 ⟨_, rfl, _, .head _, by decide, rfl⟩⟩

end Bbb
end B3scale
