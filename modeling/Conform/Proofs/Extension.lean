/-
# Values that extend one another

`x.Extends grows y` says that nothing of `x` is lost in `y`: scalars are the same, a list has the same
length and is extended item by item, and every member of an object is there, extended.  The parameter
says what else may happen.  Where `grows` holds, a null may have become anything, also nothing at all,
and objects may have further members.  Where it does not, nothing may: then the two values are alike,
that is, the same but for the order of members (`Alike`).

Both readings share all their laws.  Extension is reflexive on proper values and transitive, of
objects it can be read off name by name (`extends_obj_iff`), and a value that extends another one still
does when it is laid over it (`extends_overlay`).
-/
import Conform.Proofs.Members
import Conform.Resolve.Compose

namespace Conform.Json

open Fields (get?)

/-! ## 1. The relation -/

mutual

/-- **Nothing of the first value is lost in the second**, and if nothing `grows`, nothing is added. -/
def Extends (grows : Prop) : (x y : Json) → Prop
  | .null, y => grows ∨ y = .null
  | .bool b, y => y = .bool b
  | .num n, y => y = .num n
  | .str s, y => y = .str s
  | .arr _ xs, y => ∃ tag ys, y = .arr tag ys ∧ ExtendsItems grows xs ys
  | .obj _ f, y => ∃ tag g, y = .obj tag g ∧ ExtendsMembers grows f g ∧
      (grows ∨ ∀ k ∈ Fields.names g, k ∈ Fields.names f)

/-- Items extended one by one. -/
def ExtendsItems (grows : Prop) : (xs ys : List Json) → Prop
  | [], ys => ys = []
  | x :: xs, ys => ∃ y rest, ys = y :: rest ∧ Extends grows x y ∧ ExtendsItems grows xs rest

/-- Every member is there, extended; a null one may be gone if something grows. -/
def ExtendsMembers (grows : Prop) : List (String × Json) → Fields → Prop
  | [], _ => True
  | (k, x) :: rest, g =>
    ((grows ∧ x = .null) ∨ ∃ y, get? g k = some y ∧ Extends grows x y) ∧ ExtendsMembers grows rest g

end

/-- Extension of values that may be missing: of a missing one nothing can be lost. -/
def Extends? (grows : Prop) : (x y : Option Json) → Prop
  | none, y => grows ∨ y = none
  | some x, y => (grows ∧ x = .null) ∨ ∃ z, y = some z ∧ Extends grows x z

/-- **The two values are the same but for the order of members.** -/
abbrev Alike (x y : Json) : Prop := Extends False x y

variable {grows : Prop}

/-- Every item of the second list has a counterpart in the first. -/
theorem exists_mem_of_forall₂ {α β : Type} {r : α → β → Prop} {xs : List α} {ys : List β} {y : β}
    (h : List.Forall₂ r xs ys) (hy : y ∈ ys) : ∃ x ∈ xs, r x y := by
  induction h with
  | nil => cases hy
  | @cons a b xs ys hab _ ih =>
    rcases List.mem_cons.1 hy with rfl | hy
    · exact ⟨a, List.mem_cons_self .., hab⟩
    · obtain ⟨x, hx, hxy⟩ := ih hy
      exact ⟨x, List.mem_cons_of_mem _ hx, hxy⟩

theorem extendsItems_iff {xs ys : List Json} :
    ExtendsItems grows xs ys ↔ List.Forall₂ (Extends grows) xs ys := by
  induction xs generalizing ys with
  | nil => simp [ExtendsItems]
  | cons x xs ih =>
    simp only [ExtendsItems, ih, List.forall₂_cons_left_iff]
    constructor
    · rintro ⟨y, rest, rfl, hy, hrest⟩
      exact ⟨y, rest, hy, hrest, rfl⟩
    · rintro ⟨y, rest, hy, hrest, rfl⟩
      exact ⟨y, rest, rfl, hy, hrest⟩

theorem extendsMembers_iff {f g : Fields} :
    ExtendsMembers grows f g ↔ ∀ k x, (k, x) ∈ f → Extends? grows (some x) (get? g k) := by
  induction f with
  | nil => simp [ExtendsMembers]
  | cons m rest ih =>
    obtain ⟨j, z⟩ := m
    simp only [ExtendsMembers, ih, List.mem_cons, Prod.mk.injEq]
    constructor
    · rintro ⟨hz, hrest⟩ k x (⟨rfl, rfl⟩ | hm)
      · exact hz
      · exact hrest k x hm
    · exact fun h => ⟨h j z (.inl ⟨rfl, rfl⟩), fun k x hm => h k x (.inr hm)⟩

theorem extends_arr_iff {tag : Tag} {xs : List Json} {y : Json} :
    Extends grows (.arr tag xs) y ↔
      ∃ tag' ys, y = .arr tag' ys ∧ List.Forall₂ (Extends grows) xs ys := by
  simp only [Extends, extendsItems_iff]

/-- **Extension of objects, name by name.** -/
theorem extends_obj_iff {tag : Tag} {f : Fields} {y : Json} (hd : Fields.Distinct f) :
    Extends grows (.obj tag f) y ↔
      ∃ tag' g, y = .obj tag' g ∧ ∀ k, Extends? grows (get? f k) (get? g k) := by
  simp only [Extends, extendsMembers_iff]
  refine exists_congr fun tag' => exists_congr fun g => and_congr_right fun _ => ?_
  constructor
  · rintro ⟨hm, hnew⟩ k
    cases hk : get? f k with
    | some x => exact hm k x (mem_of_get? hk)
    | none =>
      refine hnew.imp_right fun h => Fields.get?_eq_none_iff.2 fun hg => ?_
      exact Fields.get?_eq_none_iff.1 hk (h k hg)
  · intro h
    refine ⟨fun k x hm => Fields.get?_of_mem hd hm ▸ h k, ?_⟩
    by_cases hg : grows
    · exact .inl hg
    · refine .inr fun k hk => Classical.byContradiction fun hkf => ?_
      have hnone := h k
      rw [Fields.get?_eq_none_iff.2 hkf] at hnone
      exact Fields.get?_eq_none_iff.1 (hnone.resolve_left hg) hk

theorem extends_of_get? {tag tag' : Tag} {f g : Fields} (hd : Fields.Distinct f)
    (h : ∀ k, Extends? grows (get? f k) (get? g k)) : Extends grows (.obj tag f) (.obj tag' g) :=
  (extends_obj_iff hd).2 ⟨tag', g, rfl, h⟩

theorem extends_arr {tag tag' : Tag} {xs ys : List Json}
    (h : List.Forall₂ (Extends grows) xs ys) : Extends grows (.arr tag xs) (.arr tag' ys) :=
  extends_arr_iff.2 ⟨tag', ys, rfl, h⟩

/-- An empty object stays empty if nothing grows. -/
theorem eq_empty_of_extends {tag : Tag} {y : Json} (hg : ¬grows)
    (h : Extends grows (.obj tag []) y) : ∃ tag', y = .obj tag' [] := by
  obtain ⟨tag', g, rfl, hk⟩ := (extends_obj_iff Fields.distinct_nil).1 h
  cases g with
  | nil => exact ⟨tag', rfl⟩
  | cons m rest =>
    obtain ⟨j, z⟩ := m
    have hj := (hk j).resolve_left hg
    simp [Fields.get?_cons] at hj

theorem extends_of_extends? {x y : Json} (h : Extends? grows (some x) (some y)) :
    Extends grows x y := by
  rcases h with ⟨hg, rfl⟩ | ⟨z, hz, h⟩
  · exact .inl hg
  · cases hz
    exact h

theorem Extends.some {x y : Json} (h : Extends grows x y) :
    Extends? grows (some x) (some y) := .inr ⟨y, rfl, h⟩

/-- What extends a value that is not null is there, and not null either. -/
theorem exists_of_extends? {x : Json} {o : Option Json} (hx : x ≠ .null)
    (h : Extends? grows (some x) o) : ∃ y, o = some y ∧ y ≠ .null ∧ Extends grows x y := by
  rcases h with ⟨-, rfl⟩ | ⟨y, rfl, h⟩
  · exact absurd rfl hx
  · refine ⟨y, rfl, ?_, h⟩
    rintro rfl
    cases x <;> simp [Extends] at h hx

/-! ## 2. Order -/

theorem extends_refl {x : Json} (hp : x.Proper) : Extends grows x x := by
  induction x using Json.induction with
  | step x ih =>
    cases x with
    | null => exact .inr rfl
    | arr tag items =>
      refine extends_arr (List.forall₂_same.2 fun y hy => ?_)
      exact ih y hy (hp.of_mem_items hy)
    | obj tag fields =>
      refine extends_of_get? hp.distinct fun k => ?_
      cases hk : get? fields k with
      | none => exact .inr rfl
      | some y =>
        have hm := mem_of_get? hk
        exact (ih y (List.mem_map.2 ⟨_, hm, rfl⟩) (hp.of_mem_fields hm)).some
    | _ => simp only [Extends]

theorem extends?_refl {o : Option Json} (hp : ∀ x, o = some x → x.Proper) :
    Extends? grows o o := by
  cases o with
  | none => exact .inr rfl
  | some x => exact (extends_refl (hp x rfl)).some

theorem extends_trans {x y z : Json} (h₁ : Extends grows x y) (h₂ : Extends grows y z) :
    Extends grows x z := by
  induction x using Json.induction generalizing y z with
  | step x ih =>
    cases x with
    | null =>
      rcases h₁ with hg | rfl
      · exact .inl hg
      · exact h₂
    | arr tag items =>
      obtain ⟨_, ys, rfl, hy⟩ := extends_arr_iff.1 h₁
      obtain ⟨_, zs, rfl, hz⟩ := extends_arr_iff.1 h₂
      refine extends_arr ?_
      clear h₁ h₂
      induction hy generalizing zs with
      | nil =>
        cases hz
        exact .nil
      | cons hxy _ ihs =>
        obtain ⟨z, zs, hyz, hrest, rfl⟩ := List.forall₂_cons_left_iff.1 hz
        exact .cons (ih _ (List.mem_cons_self ..) hxy hyz)
          (ihs (fun x hx => ih x (List.mem_cons_of_mem _ hx)) zs hrest)
    | obj tag fields =>
      simp only [Extends, extendsMembers_iff] at h₁ ⊢
      obtain ⟨_, g, rfl, hg, hnew⟩ := h₁
      simp only [Extends, extendsMembers_iff] at h₂
      obtain ⟨tag'', k, rfl, hk, hnew'⟩ := h₂
      refine ⟨tag'', k, rfl, fun name x hm => ?_, ?_⟩
      · rcases hg name x hm with hnull | ⟨y, hy, hxy⟩
        · exact .inl hnull
        · rcases hk name y (mem_of_get? hy) with ⟨hgrows, rfl⟩ | ⟨z, hz, hyz⟩
          · refine .inl ⟨hgrows, ?_⟩
            cases x <;> simp [Extends] at hxy
            rfl
          · exact .inr ⟨z, hz, ih x (List.mem_map.2 ⟨_, hm, rfl⟩) hxy hyz⟩
      · rcases hnew with hgrows | hnew
        · exact .inl hgrows
        · exact hnew'.imp_right fun hnew' name hn => hnew name (hnew' name hn)
    | _ =>
      simp only [Extends] at h₁
      exact h₁ ▸ h₂

theorem extends?_trans {a b c : Option Json} (h₁ : Extends? grows a b)
    (h₂ : Extends? grows b c) : Extends? grows a c := by
  cases a with
  | none =>
    rcases h₁ with hg | rfl
    · exact .inl hg
    · exact h₂
  | some x =>
    by_cases hx : x = .null
    · subst hx
      rcases h₁ with h | ⟨y, rfl, h⟩
      · exact .inl h
      · rcases h with hg | rfl
        · exact .inl ⟨hg, rfl⟩
        · exact h₂
    · obtain ⟨y, rfl, hy, hxy⟩ := exists_of_extends? hx h₁
      obtain ⟨z, rfl, -, hyz⟩ := exists_of_extends? hy h₂
      exact (extends_trans hxy hyz).some

/-! ## 3. Nulls -/

/-- Values that are alike are both free of nulls, or neither is. -/
theorem Alike.nullFree {x y : Json} (h : Alike x y) (hp : y.Proper) (hx : x.NullFree) :
    y.NullFree := by
  induction x using Json.induction generalizing y with
  | step x ih =>
    cases x with
    | null => exact absurd rfl hx.here
    | arr tag items =>
      obtain ⟨_, ys, rfl, hys⟩ := extends_arr_iff.1 h
      refine .intro Json.noConfusion fun y hy => ?_
      obtain ⟨x, hm, hxy⟩ := exists_mem_of_forall₂ hys hy
      exact ih x hm hxy (hp.of_mem_items hy) (hx.of_mem_items hm)
    | obj tag fields =>
      simp only [Extends, extendsMembers_iff, false_or] at h
      obtain ⟨_, g, rfl, hm, hnew⟩ := h
      refine .intro Json.noConfusion fun y hy => ?_
      obtain ⟨⟨k, y⟩, hky, rfl⟩ := List.mem_map.1 hy
      obtain ⟨x, hkx⟩ := Fields.exists_get?_of_mem_names (hnew k (Fields.mem_names_of_mem hky))
      have hmem := mem_of_get? hkx
      have hxy := hm k x hmem
      rw [Fields.get?_of_mem hp.distinct hky] at hxy
      exact ih x (List.mem_map.2 ⟨_, hmem, rfl⟩) (extends_of_extends? hxy) (hp.of_mem_fields hky)
        (hx.of_mem_fields hmem)
    | _ =>
      simp only [Extends] at h
      exact h ▸ hx

/-! ## 4. Overlays -/

open Resolve.Step (overlaid)

/-- **Objects are laid over objects and lists over lists; otherwise the source is taken as it is.** -/
theorem overlay_cases (t s : Json) :
    (∃ tag tag' f g, t = .obj tag f ∧ s = .obj tag' g ∧ overlay t s = .obj tag (overlayFields f g)) ∨
    (∃ tag tag' xs ys, t = .arr tag xs ∧ s = .arr tag' ys ∧ overlay t s = .arr tag (overlayItems xs ys)) ∨
    overlay t s = s := by
  cases t with
  | obj tag f =>
    cases s with
    | obj tag' g => exact .inl ⟨tag, tag', f, g, rfl, rfl, by rw [overlay]⟩
    | _ => exact .inr (.inr (by rw [overlay] <;> simp))
  | arr tag xs =>
    cases s with
    | arr tag' ys => exact .inr (.inl ⟨tag, tag', xs, ys, rfl, rfl, by rw [overlay]⟩)
    | _ => exact .inr (.inr (by rw [overlay] <;> simp))
  | _ => exact .inr (.inr (by rw [overlay] <;> simp))

theorem overlayItems_nil {upper : List Json} : overlayItems [] upper = upper := by
  cases upper <;> simp [overlayItems]

theorem overlaid_none (o : Option Json) : overlaid o none = o := by
  cases o <;> rfl

theorem get?_overlayFields {fields upper : Fields} {k : String} (hd : Fields.Distinct upper) :
    get? (overlayFields fields upper) k = overlaid (get? fields k) (get? upper k) := by
  induction upper generalizing fields with
  | nil => simp [overlayFields, overlaid_none]
  | cons m rest ih =>
    obtain ⟨i, z⟩ := m
    obtain ⟨hi, hrest⟩ := Fields.distinct_cons.1 hd
    rw [overlayFields, ih hrest, Fields.get?_put, Fields.get?_cons]
    by_cases hk : k = i
    · subst hk
      rw [if_pos rfl, if_pos rfl, Fields.get?_eq_none_iff.2 hi, overlaid_none]
      cases get? fields k <;> rfl
    · rw [if_neg hk, if_neg hk]

theorem distinct_overlayFields {fields upper : Fields} (hd : Fields.Distinct fields) :
    Fields.Distinct (overlayFields fields upper) := by
  induction upper generalizing fields with
  | nil => rwa [overlayFields]
  | cons m rest ih =>
    rw [overlayFields]
    exact ih hd.put

theorem overlayItems_self {items : List Json} (h : ∀ x ∈ items, overlay x x = x) :
    overlayItems items items = items := by
  induction items with
  | nil => rw [overlayItems]
  | cons x rest ih =>
    rw [overlayItems, h x (List.mem_cons_self ..), ih fun y hy => h y (List.mem_cons_of_mem _ hy)]

/-- Members laid over others that have taken them in already change nothing. -/
theorem overlayFields_of_mem {fields upper : Fields}
    (h : ∀ k x, (k, x) ∈ upper → ∃ y, get? fields k = some y ∧ overlay y x = y) :
    overlayFields fields upper = fields := by
  induction upper with
  | nil => rw [overlayFields]
  | cons member rest ih =>
    obtain ⟨k, x⟩ := member
    obtain ⟨y, hk, hx⟩ := h k x (List.mem_cons_self ..)
    rw [overlayFields, hk]
    simp only [hx, Fields.put_of_get? hk]
    exact ih fun j z hm => h j z (List.mem_cons_of_mem _ hm)

/-- **A proper value laid over itself is itself.** -/
theorem overlay_self {x : Json} (proper : x.Proper) : overlay x x = x := by
  induction x using Json.induction with
  | step x ih =>
    cases x with
    | arr tag items =>
      have same : ∀ y ∈ items, overlay y y = y := fun y hy => ih y hy (proper.of_mem_items hy)
      rw [overlay, overlayItems_self same]
    | obj tag fields =>
      rw [overlay, overlayFields_of_mem fun k y hm => ?_]
      exact ⟨y, Fields.get?_of_mem proper.distinct hm,
        ih y (List.mem_map.2 ⟨_, hm, rfl⟩) (proper.of_mem_fields hm)⟩
    | _ =>
      rw [overlay]
      all_goals simp

/-- An item of a list laid over another one comes from either of them, or from both. -/
theorem mem_overlayItems {items upper : List Json} {z : Json} (h : z ∈ overlayItems items upper) :
    z ∈ items ∨ z ∈ upper ∨ ∃ a ∈ items, ∃ b ∈ upper, z = overlay a b := by
  induction items generalizing upper with
  | nil =>
    rw [overlayItems_nil] at h
    exact .inr (.inl h)
  | cons a items ih =>
    cases upper with
    | nil =>
      rw [overlayItems] at h
      exact .inl h
    | cons b upper =>
      rw [overlayItems] at h
      rcases List.mem_cons.1 h with rfl | h
      · exact .inr (.inr ⟨a, List.mem_cons_self .., b, List.mem_cons_self .., rfl⟩)
      rcases ih h with h | h | ⟨a', ha, b', hb, rfl⟩
      · exact .inl (List.mem_cons_of_mem _ h)
      · exact .inr (.inl (List.mem_cons_of_mem _ h))
      · exact .inr (.inr ⟨a', List.mem_cons_of_mem _ ha, b', List.mem_cons_of_mem _ hb, rfl⟩)

/-- A member of an object laid over another one comes from either of them, or from both. -/
theorem overlaid_eq_some {lower upper : Option Json} {z : Json} (h : overlaid lower upper = some z) :
    lower = some z ∨ upper = some z ∨ ∃ a b, lower = some a ∧ upper = some b ∧ z = overlay a b := by
  cases lower with
  | none => cases upper <;> cases h; exact .inr (.inl rfl)
  | some a =>
    cases upper with
    | none =>
      cases h
      exact .inl rfl
    | some b =>
      cases h
      exact .inr (.inr ⟨a, b, rfl, rfl, rfl⟩)

/-- An overlay of proper values is proper. -/
theorem proper_overlay {x y : Json} (hx : x.Proper) (hy : y.Proper) : (overlay x y).Proper := by
  induction x using Json.induction generalizing y with
  | step x ih =>
    rcases overlay_cases x y with ⟨tag, tag', f, g, rfl, rfl, h⟩ | ⟨tag, tag', xs, ys, rfl, rfl, h⟩ | h
    · have hd : Fields.Distinct (overlayFields f g) := distinct_overlayFields hx.distinct
      refine h ▸ proper_obj hd fun k z hz => ?_
      have hk := Fields.get?_of_mem hd hz
      rw [get?_overlayFields hy.distinct] at hk
      rcases overlaid_eq_some hk with hf | hg | ⟨a, b, hf, hg, rfl⟩
      · exact hx.of_get? hf
      · exact hy.of_get? hg
      · exact ih a (List.mem_map.2 ⟨_, mem_of_get? hf, rfl⟩) (hx.of_get? hf) (hy.of_get? hg)
    · refine h ▸ proper_arr fun z hz => ?_
      rcases mem_overlayItems hz with hz | hz | ⟨a, ha, b, hb, rfl⟩
      · exact hx.of_mem_items hz
      · exact hy.of_mem_items hz
      · exact ih a ha (hx.of_mem_items ha) (hy.of_mem_items hb)
    · rwa [h]

/-- **What extends a value still does when it is laid over it.** -/
theorem extends_overlay {x y : Json} (h : Extends grows x y) (hx : x.Proper) (hy : y.Proper) :
    Extends grows x (overlay x y) := by
  induction x using Json.induction generalizing y with
  | step x ih =>
    cases x with
    | arr tag items =>
      obtain ⟨_, upper, rfl, hu⟩ := extends_arr_iff.1 h
      rw [overlay]
      refine extends_arr ?_
      clear h
      induction hu with
      | nil =>
        rw [overlayItems_nil]
        exact .nil
      | @cons a b items upper hab _ ihs =>
        rw [overlayItems]
        refine .cons ?_ ?_
        · exact ih a (List.mem_cons_self ..) hab (hx.of_mem_items (List.mem_cons_self ..))
            (hy.of_mem_items (List.mem_cons_self ..))
        · exact ihs (fun c hc => ih c (List.mem_cons_of_mem _ hc))
            (proper_arr fun c hc => hx.of_mem_items (List.mem_cons_of_mem _ hc))
            (proper_arr fun c hc => hy.of_mem_items (List.mem_cons_of_mem _ hc))
    | obj tag fields =>
      obtain ⟨_, upper, rfl, hu⟩ := (extends_obj_iff hx.distinct).1 h
      rw [overlay]
      refine extends_of_get? hx.distinct fun k => ?_
      rw [get?_overlayFields hy.distinct]
      have hk := hu k
      cases hf : get? fields k with
      | none =>
        rw [hf] at hk
        cases hg : get? upper k <;> simpa only [hg, overlaid] using hk
      | some a =>
        rw [hf] at hk
        rcases hk with hnull | ⟨b, hb, hab⟩
        · exact .inl hnull
        · rw [hb]
          exact (ih a (List.mem_map.2 ⟨_, mem_of_get? hf, rfl⟩) hab (hx.of_get? hf)
            (hy.of_get? hb)).some
    | null =>
      rw [overlay]
      · exact h
      all_goals simp
    | _ =>
      simp only [Extends] at h
      subst h
      rw [overlay]
      · simp only [Extends]
      all_goals simp

end Conform.Json
