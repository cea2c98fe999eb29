/-
  b3scale formalization — the `Header`, `SetHeader`, `Status` and
  `SetStatus` methods of the responses (`pkg/bbb/response.go`).

  Every response keeps an `http.Header` and a status code, through one of
  four method sets:
  * `RawResponse` and `XMLResponse` keep their own fields, and `Header`
    replaces a `nil` header with one holding their `Content-Type`;
    `RawResponse.Status` answers `200` for a status never set;
  * the two JSON responses keep their own fields as they are;
  * the eleven XML responses embed a `*XMLResponse` and hand every call to
    it, which panics when it is `nil`;
  * every method of `GetDefaultConfigXMLResponse` calls itself.

  * `runCalls`: a run of calls on one response; `Meta.look`: the response
    read as the header and status set last, `Header` changing nothing;
  * `run_call_eq_look`: the header `Header` fills in is never seen, so a
    response answers every run as that reading does;
  * `Response.call`: a call through one of the four method sets;
  * `response_methods`: what each member answers over every run, and which
    runs panic: exactly those on an embedding response whose
    `*XMLResponse` is `nil`, and those on a `GetDefaultConfigXMLResponse`.
-/
import Mathlib.Data.List.Basic

namespace B3scale
namespace Bbb

/-- The two fields every response keeps: its `http.Header`, each key with
    its values (`none` is `nil`), and its status code. -/
structure Meta where
  header : Option (List (String × List String))
  status : Nat
  deriving DecidableEq, Repr

/-- A call of one of the four methods. -/
inductive Call
  | header
  | setHeader (h : Option (List (String × List String)))
  | status
  | setStatus (s : Nat)
  deriving DecidableEq, Repr

/-- What a call returns. -/
inductive Ret
  | header (h : Option (List (String × List String)))
  | status (s : Nat)
  | done
  deriving DecidableEq, Repr

/-- The header `Header` makes for a `nil` one: `make(http.Header)`, then
    `Add("Content-Type", t)`. -/
def defaultHeader (t : String) : List (String × List String) := [("Content-Type", [t])]

/-- The methods of a response that keeps its own fields. When the response
    has a content type `t`, `Header` replaces a `nil` header with one
    holding `Content-Type: t`, and keeps it; `Status` answers
    `http.StatusOK` for `0` when `ok`. -/
def Meta.call (t : Option String) (ok : Bool) (m : Meta) : Call → Ret × Meta
  | .header =>
    match m.header, t with
    | none, some t =>
      (.header (some (defaultHeader t)), { m with header := some (defaultHeader t) })
    | h, _ => (.header h, m)
  | .setHeader h => (.done, { m with header := h })
  | .status => (.status (if ok && m.status == 0 then 200 else m.status), m)
  | .setStatus s => (.done, { m with status := s })

/-- `RawResponse`'s methods: `text/html`, and `200` for a status never
    set. -/
def RawResponse.call : Meta → Call → Ret × Meta := Meta.call (some "text/html") true

/-- `XMLResponse`'s methods: `application/xml`, and the status as set. -/
def XMLResponse.call : Meta → Call → Ret × Meta := Meta.call (some "application/xml") false

/-- `GetRecordingTextTracksResponse`'s methods: its fields as they are. -/
def GetRecordingTextTracksResponse.call : Meta → Call → Ret × Meta := Meta.call none false

/-- `PutRecordingTextTrackResponse`'s methods: its fields as they are. -/
def PutRecordingTextTrackResponse.call : Meta → Call → Ret × Meta := Meta.call none false

/-- The methods of a response embedding a `*XMLResponse`: each call goes to
    `res.XMLResponse`, and panics (`none`) when that is `nil`. -/
def Embedded.call (x : Option Meta) (c : Call) : Option (Ret × Option Meta) :=
  x.map fun m => ((XMLResponse.call m c).1, some (XMLResponse.call m c).2)

/-- `CreateResponse`'s methods. -/
def CreateResponse.call : Option Meta → Call → Option (Ret × Option Meta) := Embedded.call
/-- `JoinResponse`'s methods. -/
def JoinResponse.call : Option Meta → Call → Option (Ret × Option Meta) := Embedded.call
/-- `IsMeetingRunningResponse`'s methods. -/
def IsMeetingRunningResponse.call : Option Meta → Call → Option (Ret × Option Meta) :=
  Embedded.call
/-- `EndResponse`'s methods. -/
def EndResponse.call : Option Meta → Call → Option (Ret × Option Meta) := Embedded.call
/-- `GetMeetingInfoResponse`'s methods. -/
def GetMeetingInfoResponse.call : Option Meta → Call → Option (Ret × Option Meta) :=
  Embedded.call
/-- `GetMeetingsResponse`'s methods. -/
def GetMeetingsResponse.call : Option Meta → Call → Option (Ret × Option Meta) := Embedded.call
/-- `GetRecordingsResponse`'s methods. -/
def GetRecordingsResponse.call : Option Meta → Call → Option (Ret × Option Meta) :=
  Embedded.call
/-- `PublishRecordingsResponse`'s methods. -/
def PublishRecordingsResponse.call : Option Meta → Call → Option (Ret × Option Meta) :=
  Embedded.call
/-- `DeleteRecordingsResponse`'s methods. -/
def DeleteRecordingsResponse.call : Option Meta → Call → Option (Ret × Option Meta) :=
  Embedded.call
/-- `UpdateRecordingsResponse`'s methods. -/
def UpdateRecordingsResponse.call : Option Meta → Call → Option (Ret × Option Meta) :=
  Embedded.call
/-- `SetConfigXMLResponse`'s methods. -/
def SetConfigXMLResponse.call : Option Meta → Call → Option (Ret × Option Meta) :=
  Embedded.call

/-- `GetDefaultConfigXMLResponse`'s methods, each of which calls itself on
    the same response (`return res.Header()` in `Header`, and so on), up to
    `depth` frames before the goroutine's stack is used up (`none`). -/
def GetDefaultConfigXMLResponse.call : Nat → Meta → Call → Option (Ret × Meta)
  | 0, _, _ => none
  | depth + 1, m, c => GetDefaultConfigXMLResponse.call depth m c

/-- A value of the `Response` interface, by its method set: one that keeps
    its own fields (`RawResponse` with `text/html` and `ok`, `XMLResponse`
    with `application/xml`, the two JSON responses with no content type),
    one of the eleven embedding a `*XMLResponse`, or a
    `GetDefaultConfigXMLResponse`. -/
inductive Response
  | own (t : Option String) (ok : Bool) (m : Meta)
  | embedded (x : Option Meta)
  | getDefaultConfig (m : Meta)

/-- A method call on a response, through its method set; `none` when it
    panics or the stack is used up. -/
def Response.call (depth : Nat) : Response → Call → Option (Ret × Response)
  | .own t ok m, c => some ((m.call t ok c).1, .own t ok (m.call t ok c).2)
  | .embedded x, c => (Embedded.call x c).map fun p => (p.1, .embedded p.2)
  | .getDefaultConfig m, c =>
    (GetDefaultConfigXMLResponse.call depth m c).map fun p => (p.1, .getDefaultConfig p.2)

/-- The responses whose methods never return: an embedding one whose
    `*XMLResponse` is `nil`, and `GetDefaultConfigXMLResponse`. -/
def Response.panics : Response → Bool
  | .own _ _ _ => false
  | .embedded x => x.isNone
  | .getDefaultConfig _ => true

/-! ## Runs -/

/-- The answers of a run of calls on one response. -/
def runCalls {σ : Type} (f : σ → Call → Ret × σ) : σ → List Call → List Ret
  | _, [] => []
  | s, c :: cs => (f s c).1 :: runCalls f (f s c).2 cs

/-- The answers of a run of calls on a response embedding a
    `*XMLResponse`; `none` when a call panicked. -/
def Embedded.run : Option Meta → List Call → Option (List Ret)
  | _, [] => some []
  | x, c :: cs =>
    (Embedded.call x c).bind fun (r, x) => (Embedded.run x cs).map (r :: ·)

/-- The answers of a run of calls on a response; `none` when a call
    panicked. -/
def Response.run (depth : Nat) : Response → List Call → Option (List Ret)
  | _, [] => some []
  | r, c :: cs => (r.call depth c).bind fun (a, r) => (r.run depth cs).map (a :: ·)

/-- What `Header` answers: the header set last, or the default one for a
    `nil` header. -/
def Meta.readHeader (t : Option String) (m : Meta) : Option (List (String × List String)) :=
  match m.header with
  | some h => some h
  | none => t.map defaultHeader

/-- A response read as the header and status set last: `Header` answers
    `readHeader` and changes nothing; the other calls are the methods. -/
def Meta.look (t : Option String) (ok : Bool) (m : Meta) : Call → Ret × Meta
  | .header => (.header (m.readHeader t), m)
  | c => m.call t ok c

/-- `Header` fills the header in with what `readHeader` answers. -/
def Meta.fill (t : Option String) (m : Meta) : Meta := { m with header := m.readHeader t }

/-- One call on a response and on its filled form answers as the reading
    does, and leaves the reading's state or its filled form. -/
theorem Meta.call_of_fill (t : Option String) (ok : Bool) (a : Meta) (c : Call) :
    ∀ m ∈ [a, a.fill t], (m.call t ok c).1 = (a.look t ok c).1 ∧
      (m.call t ok c).2 ∈ [(a.look t ok c).2, (a.look t ok c).2.fill t] := by
  intro m hm
  rcases a with ⟨h, s⟩
  simp only [List.mem_cons, List.mem_singleton, List.not_mem_nil, or_false] at hm
  rcases hm with rfl | rfl <;> cases c <;> cases h <;> cases t <;>
    simp [Meta.call, Meta.look, Meta.fill, Meta.readHeader]

/-- **The default header is never seen.** For every content type, every
    response and every run of calls, the answers are those of the response
    read as the header and status set last, with the default header for a
    `nil` one. -/
theorem run_call_eq_look (t : Option String) (ok : Bool) :
    ∀ (cs : List Call) (a : Meta), ∀ m ∈ [a, a.fill t],
      runCalls (Meta.call t ok) m cs = runCalls (Meta.look t ok) a cs
  | [], _, _, _ => rfl
  | c :: cs, a, m, hm => by
    obtain ⟨hr, hs⟩ := Meta.call_of_fill t ok a c m hm
    simp only [runCalls, hr, run_call_eq_look t ok cs _ _ hs]

theorem Embedded.run_some (m : Meta) :
    ∀ cs, Embedded.run (some m) cs = some (runCalls XMLResponse.call m cs)
  | [] => rfl
  | c :: cs => by simp [Embedded.run, Embedded.call, runCalls, Embedded.run_some _ cs]

theorem GetDefaultConfigXMLResponse.call_eq_none :
    ∀ (depth : Nat) (m : Meta) (c : Call), GetDefaultConfigXMLResponse.call depth m c = none
  | 0, _, _ => rfl
  | depth + 1, m, c => GetDefaultConfigXMLResponse.call_eq_none depth m c

theorem Response.call_eq_none_iff (depth : Nat) (r : Response) (c : Call) :
    r.call depth c = none ↔ r.panics = true := by
  cases r with
  | own t ok m => simp [Response.call, Response.panics]
  | embedded x => cases x <;> simp [Response.call, Response.panics, Embedded.call]
  | getDefaultConfig m =>
    simp [Response.call, Response.panics, GetDefaultConfigXMLResponse.call_eq_none]

/-- A response that answers a call keeps its method set. -/
theorem Response.call_panics {depth : Nat} {r r' : Response} {c : Call} {a : Ret}
    (h : r.call depth c = some (a, r')) : r'.panics = r.panics := by
  cases r with
  | own t ok m => simp only [Response.call, Option.some.injEq, Prod.mk.injEq] at h; rw [← h.2]; rfl
  | embedded x =>
    cases x <;> simp only [Response.call, Embedded.call, Option.map_some', Option.map_none',
      Option.some.injEq, Prod.mk.injEq, reduceCtorEq] at h
    rw [← h.2]; rfl
  | getDefaultConfig m => simp [Response.call, GetDefaultConfigXMLResponse.call_eq_none] at h

theorem Response.run_isSome (depth : Nat) :
    ∀ (r : Response) (cs : List Call), r.panics = false → (r.run depth cs).isSome
  | _, [], _ => rfl
  | r, c :: cs, h => by
    obtain ⟨⟨a, r'⟩, hc⟩ := Option.ne_none_iff_exists'.1
      (mt (Response.call_eq_none_iff depth r c).1 (by simp [h]))
    have ih := Response.run_isSome depth r' cs (by rw [Response.call_panics hc, h])
    simpa [Response.run, hc] using ih

/-- A run of calls ends in a panic exactly when the response's methods
    never return. -/
theorem Response.run_eq_none_iff (depth : Nat) (r : Response) (c : Call) (cs : List Call) :
    r.run depth (c :: cs) = none ↔ r.panics = true := by
  refine ⟨fun h => ?_, fun h => by simp [Response.run, (Response.call_eq_none_iff depth r c).2 h]⟩
  by_contra hp
  simpa [h] using Response.run_isSome depth r (c :: cs) (by simpa using hp)

/-- **What the responses answer.** For every run of calls from every
    state: a `RawResponse` answers as the header and status set last, with
    `Content-Type: text/html` for a `nil` header and `200` for a status of
    `0`; an `XMLResponse` likewise with `application/xml` and the status as
    set, and so does a response embedding one, which panics at its first
    call exactly when it embeds none; the JSON responses answer their fields
    as they are, a `nil` header included; and over the four method sets, a
    run panics exactly for an embedding response with a `nil`
    `*XMLResponse` and for a `GetDefaultConfigXMLResponse`, however deep the
    stack. -/
theorem response_methods (m : Meta) (c : Call) (cs : List Call) :
    runCalls RawResponse.call m cs = runCalls (Meta.look (some "text/html") true) m cs ∧
    runCalls XMLResponse.call m cs = runCalls (Meta.look (some "application/xml") false) m cs ∧
    Embedded.run (some m) cs = some (runCalls (Meta.look (some "application/xml") false) m cs) ∧
    (∀ x, Embedded.run x (c :: cs) = none ↔ x = none) ∧
    runCalls GetRecordingTextTracksResponse.call m cs = runCalls (Meta.look none false) m cs ∧
    runCalls PutRecordingTextTrackResponse.call m cs = runCalls (Meta.look none false) m cs ∧
    ∀ depth (r : Response), r.run depth (c :: cs) = none ↔ r.panics = true := by
  have h t ok := run_call_eq_look t ok cs m m (List.mem_cons_self _ _)
  have hx : Embedded.run (some m) cs = some (runCalls (Meta.look (some "application/xml") false) m cs) := by
    rw [Embedded.run_some, XMLResponse.call, h]
  refine ⟨h _ _, h _ _, hx, fun x => ?_, h _ _, h _ _,
    fun depth r => Response.run_eq_none_iff depth r c cs⟩
  cases x with
  | none => simp [Embedded.run, Embedded.call]
  | some a => simp [Embedded.run_some]

end Bbb
end B3scale
