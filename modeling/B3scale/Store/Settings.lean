/-
  b3scale formalization — tag lists and the partial updates of backend and
  frontend settings (`pkg/store/settings.go`).

  `Tags.Eq` sorts both lists in place and compares them joined with a
  space. The join tells lists apart only when no label is empty and none
  holds a space: `[""]` joins like `[]`, and `["a b"]` like `["a", "b"]`.

  * `intercalate_inj`: on such labels the join is injective;
  * `tags_eq_not_multiset`: `Eq` holds of lists equal as multisets, and on
    such labels only of them, but also of `[""]` and `[]` and of a label
    holding a space and the labels around it;
  * `merge_applies_patch`: what `BackendSettings.Merge` and
    `FrontendSettings.Merge` leave and report, for every settings value and
    patch;
  * `merge_twice`: merging a patch again changes nothing, and reports an
    update only for a `DefaultPresentation`.
-/
import Mathlib.Data.List.Sort
import Mathlib.Data.String.Basic

namespace B3scale

/-- `sort.Strings`. Go compares the bytes of the strings, which orders UTF-8
    text as `<` on `String` orders its characters, and a sorted permutation
    is unique, so any sort gives this list. -/
def sortStrings (l : List String) : List String := l.insertionSort (· ≤ ·)

/-- `Tags.Eq`: both lists sorted, then compared joined with a space. A `nil`
    list is `[]`. -/
def Tags.eq (t other : List String) : Bool :=
  String.intercalate " " (sortStrings t) == String.intercalate " " (sortStrings other)

/-- Labels that the join keeps apart: none is empty and none holds a space. -/
def Tags.Plain (l : List String) : Prop := ∀ x ∈ l, x ≠ "" ∧ ' ' ∉ x.data

instance (l : List String) : Decidable (Tags.Plain l) :=
  inferInstanceAs (Decidable (∀ x ∈ l, _))

theorem Tags.Plain.perm {l l' : List String} (h : Tags.Plain l) (hp : l.Perm l') :
    Tags.Plain l' :=
  fun x hx => h x (hp.mem_iff.2 hx)

/-! ### The join -/

/-- The labels after the first, each behind its space. -/
def spaced (l : List String) : List Char := (l.map fun x => ' ' :: x.data).flatten

theorem intercalate_go_data (s : String) :
    ∀ (acc : String) (l : List String),
      (String.intercalate.go acc s l).data = acc.data ++ (l.map fun x => s.data ++ x.data).flatten
  | _, [] => by simp [String.intercalate.go]
  | acc, x :: l => by simp [String.intercalate.go, intercalate_go_data s _ l]

theorem intercalate_cons_data (x : String) (l : List String) :
    (String.intercalate " " (x :: l)).data = x.data ++ spaced l := by
  simp [String.intercalate, intercalate_go_data, spaced]

/-- A label holds no space, so it ends where the rest of the join starts. -/
theorem takeWhile_label {a : List Char} (ha : ' ' ∉ a) (l : List String) :
    (a ++ spaced l).takeWhile (· != ' ') = a := by
  rw [List.takeWhile_append_of_pos fun c hc => by simpa using ne_of_mem_of_not_mem hc ha]
  cases l <;> simp [spaced]

theorem label_inj {a b : List Char} {l l' : List String} (ha : ' ' ∉ a) (hb : ' ' ∉ b)
    (h : a ++ spaced l = b ++ spaced l') : a = b ∧ spaced l = spaced l' := by
  obtain rfl : a = b := by rw [← takeWhile_label ha l, h, takeWhile_label hb l']
  exact ⟨rfl, List.append_cancel_left h⟩

theorem spaced_inj : ∀ {l l' : List String}, (∀ x ∈ l, ' ' ∉ x.data) →
    (∀ x ∈ l', ' ' ∉ x.data) → spaced l = spaced l' → l = l'
  | [], [], _, _, _ => rfl
  | [], _ :: _, _, _, h => by simp [spaced] at h
  | _ :: _, [], _, _, h => by simp [spaced] at h
  | x :: l, y :: l', hl, hl', h => by
    simp only [spaced, List.map_cons, List.flatten_cons, List.cons_append, List.cons.injEq,
      true_and] at h
    obtain ⟨hxy, hs⟩ := label_inj (hl x (.head _)) (hl' y (.head _)) h
    rw [String.ext hxy,
      spaced_inj (fun z hz => hl z (.tail _ hz)) (fun z hz => hl' z (.tail _ hz)) hs]

/-- Joining labels with a space is injective when no label is empty and
    none holds a space. -/
theorem intercalate_inj : ∀ {l l' : List String}, Tags.Plain l → Tags.Plain l' →
    String.intercalate " " l = String.intercalate " " l' → l = l'
  | [], [], _, _, _ => rfl
  | [], y :: l', _, h', he => by
    have := congrArg String.data he
    rw [intercalate_cons_data] at this
    exact absurd (String.ext (List.append_eq_nil.1 this.symm).1) (h' y (.head _)).1
  | x :: l, [], h, _, he => by
    have := congrArg String.data he
    rw [intercalate_cons_data] at this
    exact absurd (String.ext (List.append_eq_nil.1 this).1) (h x (.head _)).1
  | x :: l, y :: l', h, h', he => by
    have := congrArg String.data he
    rw [intercalate_cons_data, intercalate_cons_data] at this
    obtain ⟨hxy, hs⟩ := label_inj (h x (.head _)).2 (h' y (.head _)).2 this
    rw [String.ext hxy,
      spaced_inj (fun z hz => (h z (.tail _ hz)).2) (fun z hz => (h' z (.tail _ hz)).2) hs]

/-! ### `Tags.Eq` -/

theorem sortStrings_perm (l : List String) : (sortStrings l).Perm l := List.perm_insertionSort _ _

theorem sortStrings_eq_of_perm {l l' : List String} (h : l.Perm l') :
    sortStrings l = sortStrings l' :=
  List.eq_of_perm_of_sorted ((sortStrings_perm l).trans (h.trans (sortStrings_perm l').symm))
    (List.sorted_insertionSort _ _) (List.sorted_insertionSort _ _)

theorem Tags.eq_of_perm {a b : List String} (h : a.Perm b) : Tags.eq a b = true := by
  simp [Tags.eq, sortStrings_eq_of_perm h]

theorem Tags.perm_of_eq {a b : List String} (ha : Tags.Plain a) (hb : Tags.Plain b)
    (h : Tags.eq a b = true) : a.Perm b := by
  have hs : sortStrings a = sortStrings b :=
    intercalate_inj (ha.perm (sortStrings_perm a).symm) (hb.perm (sortStrings_perm b).symm)
      (by simpa [Tags.eq] using h)
  exact (sortStrings_perm a).symm.trans (hs ▸ sortStrings_perm b)

/-- Two labels joined by a space are `Eq` to the two labels. -/
theorem Tags.eq_spaced {x y : String} (h : x ≤ y) : Tags.eq [x ++ " " ++ y] [x, y] = true := by
  simp [Tags.eq, sortStrings, h, String.intercalate, String.intercalate.go]

/-- **`Tags.Eq` is multiset equality only on labels the join keeps
    apart.** Lists equal as multisets are `Eq`; lists with no empty label
    and no label holding a space are `Eq` only if they are equal as
    multisets; but `[""]` is `Eq` to `[]`, and a label `x y` holding a space
    is `Eq` to the two labels `x`, `y` around it, lists of other lengths. -/
theorem tags_eq_not_multiset (x y : String) (hxy : x ≤ y) :
    (∀ a b : List String, a.Perm b → Tags.eq a b = true) ∧
    (∀ a b : List String, Tags.Plain a → Tags.Plain b → (Tags.eq a b = true ↔ a.Perm b)) ∧
    (Tags.eq [""] [] = true ∧ ¬ [""].Perm []) ∧
    (Tags.eq [x ++ " " ++ y] [x, y] = true ∧ ¬ [x ++ " " ++ y].Perm [x, y]) :=
  ⟨fun _ _ => Tags.eq_of_perm, fun _ _ ha hb => ⟨Tags.perm_of_eq ha hb, Tags.eq_of_perm⟩,
    ⟨by decide, fun h => by simpa using h.length_eq⟩,
    ⟨Tags.eq_spaced hxy, fun h => by simpa using h.length_eq⟩⟩

/-- `Tags{"a b"}.Eq(Tags{"a", "b"})` holds. -/
theorem tags_eq_split_label :
    ("a" : String) ≤ "b" ∧
    (∀ a b : List String, a.Perm b → Tags.eq a b = true) ∧
    (∀ a b : List String, Tags.Plain a → Tags.Plain b → (Tags.eq a b = true ↔ a.Perm b)) ∧
    (Tags.eq [""] [] = true ∧ ¬ [""].Perm []) ∧
    (Tags.eq ["a" ++ " " ++ "b"] ["a", "b"] = true ∧ ¬ ["a" ++ " " ++ "b"].Perm ["a", "b"]) :=
  have h : ("a" : String) ≤ "b" := by rw [String.le_iff_toList_le]; decide
  ⟨h, tags_eq_not_multiset "a" "b" h⟩

/-! ### `Merge` -/

/-- `DefaultPresentationSettings`. -/
structure DefaultPresentationSettings where
  url : String
  force : Bool
  deriving DecidableEq

/-- `BackendSettings`; a `nil` tag list is `none`. -/
structure BackendSettings where
  tags : Option (List String)
  deriving DecidableEq

/-- `FrontendSettings`; a `nil` field is `none`. -/
structure FrontendSettings where
  requiredTags : Option (List String)
  defaultPresentation : Option DefaultPresentationSettings
  deriving DecidableEq

/-- The tag step both `Merge`s share,
    `if update.Tags != nil && !s.Tags.Eq(update.Tags) { s.Tags = update.Tags; updated = true }`.
    `Eq` sorts both slices in place: the field is left sorted either way. -/
def mergeTags (cur : Option (List String)) : Option (List String) → Option (List String) × Bool
  | none => (cur, false)
  | some u =>
    if Tags.eq (cur.getD []) u then (cur.map sortStrings, false) else (some (sortStrings u), true)

/-- `BackendSettings.Merge`: the settings afterwards and `updated`. -/
def BackendSettings.merge (s update : BackendSettings) : BackendSettings × Bool :=
  (⟨(mergeTags s.tags update.tags).1⟩, (mergeTags s.tags update.tags).2)

/-- `FrontendSettings.Merge`: the tag step, then a non-nil
    `DefaultPresentation` is copied and counts as an update. -/
def FrontendSettings.merge (s update : FrontendSettings) : FrontendSettings × Bool :=
  match update.defaultPresentation with
  | none => (⟨(mergeTags s.requiredTags update.requiredTags).1, s.defaultPresentation⟩,
      (mergeTags s.requiredTags update.requiredTags).2)
  | some p => (⟨(mergeTags s.requiredTags update.requiredTags).1, some p⟩, true)

@[simp] theorem FrontendSettings.merge_requiredTags (s u : FrontendSettings) :
    (s.merge u).1.requiredTags = (mergeTags s.requiredTags u.requiredTags).1 := by
  unfold merge; split <;> rfl

@[simp] theorem mergeTags_none (cur : Option (List String)) : mergeTags cur none = (cur, false) :=
  rfl

/-- On labels the join keeps apart, a non-nil patch leaves the field equal
    to it as a multiset, and the step reports an update exactly when the
    field was not. -/
theorem mergeTags_plain {cur : Option (List String)} {u : List String}
    (hc : Tags.Plain (cur.getD [])) (hu : Tags.Plain u) :
    ((mergeTags cur (some u)).1.getD []).Perm u ∧
      ((mergeTags cur (some u)).2 = true ↔ ¬ (cur.getD []).Perm u) := by
  simp only [mergeTags]
  split_ifs with he
  · have hp := Tags.perm_of_eq hc hu he
    refine ⟨?_, iff_of_false id (not_not.2 hp)⟩
    cases cur <;> exact (sortStrings_perm _).trans hp
  · exact ⟨sortStrings_perm u, iff_of_true rfl fun hp => he (Tags.eq_of_perm hp)⟩

/-- **What `Merge` leaves and reports.** A nil field of the patch keeps the
    field. A non-nil tag list leaves the field equal to it as a multiset when
    no label is empty or holds a space, and the backend reports an update
    exactly when the tags were not. A non-nil `DefaultPresentation` is copied
    and always reports an update; without one, the frontend reports an
    update exactly when its tags changed as a multiset. -/
theorem merge_applies_patch (s u : BackendSettings) (f g : FrontendSettings) :
    (u.tags = none → s.merge u = (s, false)) ∧
    (∀ t, u.tags = some t → Tags.Plain (s.tags.getD []) → Tags.Plain t →
      ((s.merge u).1.tags.getD []).Perm t ∧ ((s.merge u).2 = true ↔ ¬ (s.tags.getD []).Perm t)) ∧
    (g.requiredTags = none → (f.merge g).1.requiredTags = f.requiredTags) ∧
    (∀ t, g.requiredTags = some t → Tags.Plain (f.requiredTags.getD []) → Tags.Plain t →
      ((f.merge g).1.requiredTags.getD []).Perm t) ∧
    (g.defaultPresentation = none → (f.merge g).1.defaultPresentation = f.defaultPresentation) ∧
    (∀ p, g.defaultPresentation = some p →
      (f.merge g).1.defaultPresentation = some p ∧ (f.merge g).2 = true) ∧
    (g.defaultPresentation = none →
      (∀ t, g.requiredTags = some t → Tags.Plain (f.requiredTags.getD []) ∧ Tags.Plain t) →
      ((f.merge g).2 = true ↔ ∃ t, g.requiredTags = some t ∧ ¬ (f.requiredTags.getD []).Perm t)) := by
  refine ⟨fun h => by simp [BackendSettings.merge, h], fun t h hs ht => ?_,
    fun h => by simp [h], fun t h hf ht => ?_, fun h => ?_, fun p h => ?_, fun h hp => ?_⟩
  · simpa [BackendSettings.merge, h] using mergeTags_plain hs ht
  · simpa [h] using (mergeTags_plain hf ht).1
  · simp [FrontendSettings.merge, h]
  · simp [FrontendSettings.merge, h]
  · simp only [FrontendSettings.merge, h]
    cases hr : g.requiredTags with
    | none => simp
    | some t => simpa using (mergeTags_plain (hp t hr).1 (hp t hr).2).2

theorem merge_applies_new_tags :
    (BackendSettings.merge ⟨some ["b"]⟩ ⟨some ["a"]⟩).2 = true ∧
    ((FrontendSettings.merge ⟨some ["b"], none⟩
      ⟨some ["a", "c"], some ⟨"u", true⟩⟩).1.requiredTags.getD []).Perm ["a", "c"] :=
  ⟨((merge_applies_patch ⟨some ["b"]⟩ ⟨some ["a"]⟩ ⟨some ["b"], none⟩
      ⟨some ["a", "c"], some ⟨"u", true⟩⟩).2.1 ["a"] rfl (by decide) (by decide)).2.2 (by decide),
    (merge_applies_patch ⟨some ["b"]⟩ ⟨some ["a"]⟩ ⟨some ["b"], none⟩
      ⟨some ["a", "c"], some ⟨"u", true⟩⟩).2.2.2.1 ["a", "c"] rfl (by decide) (by decide)⟩

/-- A patch that repeats the default presentation reports an update, and
    the patch `[]` leaves the tags `[""]` in place and reports none. -/
theorem merge_reports_unchanged :
    FrontendSettings.merge ⟨none, some ⟨"x", false⟩⟩ ⟨none, some ⟨"x", false⟩⟩ =
      (⟨none, some ⟨"x", false⟩⟩, true) ∧
    BackendSettings.merge ⟨some [""]⟩ ⟨some []⟩ = (⟨some [""]⟩, false) :=
  ⟨rfl, by decide⟩

/-! ### Merging twice -/

theorem sortStrings_sortStrings (l : List String) : sortStrings (sortStrings l) = sortStrings l :=
  (List.sorted_insertionSort _ _).insertionSort_eq

/-- `Tags.Eq` reads its lists only through their sorted forms. -/
theorem Tags.eq_sortStrings (a b : List String) : Tags.eq (sortStrings a) b = Tags.eq a b := by
  simp only [Tags.eq, sortStrings_sortStrings]

/-- The tag step applied again with the same patch keeps the field and
    reports no update. -/
theorem mergeTags_mergeTags (cur u : Option (List String)) :
    mergeTags (mergeTags cur u).1 u = ((mergeTags cur u).1, false) := by
  rcases u with _ | u
  · rfl
  · by_cases he : Tags.eq (cur.getD []) u
    · have he' : Tags.eq ((cur.map sortStrings).getD []) u = true := by
        cases cur <;> simpa [Tags.eq_sortStrings] using he
      simp only [mergeTags, he, he', if_true, Option.map_map]
      cases cur <;> simp [sortStrings_sortStrings]
    · have he' : Tags.eq (sortStrings u) u = true := by
        rw [Tags.eq_sortStrings]; exact Tags.eq_of_perm (List.Perm.refl u)
      simp [mergeTags, he, he', sortStrings_sortStrings]

/-- **`Merge` is idempotent.** For every settings value and patch, merging
    the patch a second time leaves the settings the first merge made; the
    backend reports no update the second time, and the frontend reports one
    exactly when the patch carries a `DefaultPresentation`. -/
theorem merge_twice (s u : BackendSettings) (f g : FrontendSettings) :
    (s.merge u).1.merge u = ((s.merge u).1, false) ∧
    (f.merge g).1.merge g = ((f.merge g).1, g.defaultPresentation.isSome) := by
  constructor
  · simp only [BackendSettings.merge, mergeTags_mergeTags]
  · cases hp : g.defaultPresentation <;>
      simp only [FrontendSettings.merge, hp, mergeTags_mergeTags, Option.isSome_none, Option.isSome_some]

end B3scale
