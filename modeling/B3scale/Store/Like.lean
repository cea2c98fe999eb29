/-
  b3scale formalization — Postgres `LIKE` and `ILIKE`, as the store's
  queries use them (`host ILIKE ?`).

  * `parseLike`: the tokens of a pattern: `%`, `_`, plain characters, and
    `\` escaping the character after it; Postgres refuses a pattern that ends
    in `\`;
  * `likeMatch`: matching, by structural recursion on the text; `ilike`
    folds case first, as Postgres does under the `C` locale (ASCII letters
    only);
  * `ilike_append_any`: a text matches any prefix of it followed by `%`,
    whatever `%` and `_` the prefix holds, unless it holds a `\`;
  * `ilike_plain_prefix`: a pattern of plain characters followed by `%`
    matches exactly the texts it begins, ignoring case.
-/
import Mathlib.Data.List.Basic

namespace B3scale

/-- A token of a `LIKE` pattern. -/
inductive LikeTok
  /-- `%`: any sequence of characters -/
  | any
  /-- `_`: any one character -/
  | one
  | lit (c : Char)
  deriving DecidableEq, Repr

/-- The token an unescaped character stands for. -/
def LikeTok.ofChar (c : Char) : LikeTok :=
  if c = '%' then .any else if c = '_' then .one else .lit c

/-- The tokens of a pattern, `\` escaping the next character; `none` for a
    pattern ending in `\`. -/
def parseLike : List Char → Option (List LikeTok)
  | [] => some []
  | c :: cs =>
    if c = '\\' then
      match cs with
      | [] => none
      | d :: ds => (parseLike ds).map (.lit d :: ·)
    else (parseLike cs).map (.ofChar c :: ·)

theorem parseLike_cons {c : Char} (cs : List Char) (hc : c ≠ '\\') :
    parseLike (c :: cs) = (parseLike cs).map (.ofChar c :: ·) := by
  cases cs <;> simp [parseLike, hc]

/-- Matching the text `c :: s` against tokens, given the matcher `k` of
    `s`. -/
def likeStep (c : Char) (k : List LikeTok → Bool) : List LikeTok → Bool
  | [] => false
  | .any :: ts => likeStep c k ts || k (.any :: ts)
  | .one :: ts => k ts
  | .lit d :: ts => d == c && k ts

/-- `LIKE`: the text matches the tokens. -/
def likeMatch : List Char → List LikeTok → Bool
  | [] => fun ts => ts.all (· == .any)
  | c :: s => likeStep c (likeMatch s)

/-- `text ILIKE pattern`; `none` when Postgres refuses the pattern.
    `Char.toLower` folds the ASCII letters only, which is Postgres's
    folding under the `C` locale; under another locale Postgres folds
    other letters too. -/
def ilike (text pattern : String) : Option Bool :=
  (parseLike (pattern.toList.map Char.toLower)).map (likeMatch (text.toList.map Char.toLower))

/-! ## Case folding -/

theorem toLower_toNat_of_upper {c : Char} (h : c.toNat ≥ 65 ∧ c.toNat ≤ 90) :
    c.toLower.toNat = c.toNat + 32 := by
  simp only [Char.toLower, if_pos h]
  rw [Char.ofNat, dif_pos (by unfold Nat.isValidChar; omega)]
  rfl

/-- Folding case gives no character but a lower-case letter that was not
    there. -/
theorem eq_of_toLower_eq {c d : Char} (hd : ¬ (d.toNat ≥ 97 ∧ d.toNat ≤ 122))
    (h : c.toLower = d) : c = d := by
  by_cases hu : c.toNat ≥ 65 ∧ c.toNat ≤ 90
  · have := toLower_toNat_of_upper hu
    rw [h] at this
    exact absurd (by omega) hd
  · simpa [Char.toLower, hu] using h

theorem not_mem_map_toLower {l : List Char} {d : Char} (hd : ¬ (d.toNat ≥ 97 ∧ d.toNat ≤ 122))
    (h : d ∉ l) : d ∉ l.map Char.toLower := by
  simp only [List.mem_map, not_exists, not_and]
  exact fun c hc e => h (eq_of_toLower_eq hd e ▸ hc)

/-! ## Matching -/

@[simp] theorem likeMatch_any (s : List Char) : likeMatch s [.any] = true := by
  induction s with
  | nil => rfl
  | cons c s ih => simp [likeMatch, likeStep, ih]

/-- A `%` may match nothing. -/
theorem likeMatch_any_cons {s : List Char} {ts : List LikeTok} (h : likeMatch s ts) :
    likeMatch s (.any :: ts) := by
  cases s with
  | nil => simpa [likeMatch] using h
  | cons c s => simp [likeMatch, likeStep] at h ⊢; exact .inl h

/-- A prefix without `\`, followed by `%`, parses, and matches every text
    it begins. -/
theorem likeMatch_append_any {p : List Char} (hp : '\\' ∉ p) :
    ∃ ts, parseLike (p ++ ['%']) = some ts ∧ ∀ s, likeMatch (p ++ s) ts := by
  induction p with
  | nil => exact ⟨[.any], rfl, fun s => likeMatch_any s⟩
  | cons c p ih =>
    simp only [List.mem_cons, not_or] at hp
    obtain ⟨ts, hts, hm⟩ := ih hp.2
    refine ⟨.ofChar c :: ts, by rw [List.cons_append, parseLike_cons _ (Ne.symm hp.1), hts]; rfl,
      fun s => ?_⟩
    simp only [List.cons_append, likeMatch, LikeTok.ofChar]
    split_ifs
    · simp [likeStep, likeMatch_any_cons (hm s)]
    · simpa [likeStep] using hm s
    · simpa [likeStep] using hm s

/-- **A text matches its prefixes.** `u ++ v ILIKE u || '%'` holds for every
    `u` without a backslash, whatever `%` and `_` it holds. -/
theorem ilike_append_any {u : String} (v : String) (hu : '\\' ∉ u.toList) :
    ilike (u ++ v) (u ++ "%") = some true := by
  obtain ⟨ts, hts, hm⟩ := likeMatch_append_any (not_mem_map_toLower (by decide) hu)
  have hp : (u ++ "%").toList.map Char.toLower = u.toList.map Char.toLower ++ ['%'] := by
    rw [String.toList, String.data_append, List.map_append]; rfl
  rw [ilike, hp, hts, String.toList, String.data_append, List.map_append]
  exact congrArg some (hm _)

/-- The tokens of plain characters followed by `%`. -/
theorem parseLike_plain {p : List Char} (hp : ∀ c ∈ p, c ≠ '%' ∧ c ≠ '_' ∧ c ≠ '\\') :
    parseLike (p ++ ['%']) = some (p.map .lit ++ [.any]) := by
  induction p with
  | nil => rfl
  | cons c p ih =>
    obtain ⟨h1, h2, h3⟩ := hp c (List.mem_cons_self _ _)
    rw [List.cons_append, parseLike_cons _ h3, ih fun d hd => hp d (List.mem_cons_of_mem _ hd)]
    simp [LikeTok.ofChar, h1, h2]

theorem likeMatch_plain (p s : List Char) :
    likeMatch s (p.map .lit ++ [.any]) = p.isPrefixOf s := by
  induction p generalizing s with
  | nil => cases s <;> simp [List.isPrefixOf]
  | cons c p ih =>
    cases s with
    | nil => simp [likeMatch, List.isPrefixOf]
    | cons d s => simp [likeMatch, likeStep, List.isPrefixOf, ih]

/-- **A plain pattern followed by `%` is a prefix test.** If `u` holds no
    `%`, `_` or `\`, then `h ILIKE u || '%'` holds exactly when `u` begins
    `h`, ignoring case. -/
theorem ilike_plain_prefix (h u : String) (hu : ∀ c ∈ u.toList, c ≠ '%' ∧ c ≠ '_' ∧ c ≠ '\\') :
    ilike h (u ++ "%") =
      some ((u.toList.map Char.toLower).isPrefixOf (h.toList.map Char.toLower)) := by
  have hl : ∀ c ∈ u.toList.map Char.toLower, c ≠ '%' ∧ c ≠ '_' ∧ c ≠ '\\' := by
    simp only [List.mem_map]
    rintro _ ⟨c, hc, rfl⟩
    obtain ⟨h1, h2, h3⟩ := hu c hc
    exact ⟨fun e => h1 (eq_of_toLower_eq (by decide) e), fun e => h2 (eq_of_toLower_eq (by decide) e),
      fun e => h3 (eq_of_toLower_eq (by decide) e)⟩
  have hp : (u ++ "%").toList.map Char.toLower = u.toList.map Char.toLower ++ ['%'] := by
    rw [String.toList, String.data_append, List.map_append]; rfl
  rw [ilike, hp, parseLike_plain hl]
  exact congrArg some (likeMatch_plain _ _)

end B3scale
