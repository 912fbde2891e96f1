/-
# What an overlay takes in and what it leaves

Where one path leads through both values, it leads through their overlay as well, and what stands there is
the overlay of what stood there (`leads_overlay`).  So it is enough to know a single step: an object keeps
its members in their places, those that the source does not have as they were, and new ones go last; a list
keeps the items behind those of the source.

Where the path does not lead through both, one of the values ends, or an object meets a list.  Then the
source is taken as it is, so that whatever is no container is found in the overlay where the source has it
(`leads_overlay_of_leaf`), and laying the source over once more finds itself there (`overlay_overlay`).
-/
import Conform.Proofs.Addressing
import Conform.Proofs.Extension

namespace Conform

/-! ## 1. One step -/

namespace Json

open Fields (get?)
open Resolve.Step (overlaid)

variable {t s x : Json} {tag tag' : Tag} {f g : Fields} {xs ys : List Json}

/-- What is no container replaces whatever it is laid over. -/
theorem overlay_of_leaf (h : Accessor.isContainer s = false) : overlay t s = s := by
  rcases overlay_cases t s with ⟨_, _, _, _, -, rfl, -⟩ | ⟨_, _, _, _, -, rfl, -⟩ | replaced
  · cases h
  · cases h
  · exact replaced

/-- **Members keep their places**, and new ones go last in the order of the source. -/
theorem names_overlayFields (hd : Fields.Distinct g) : Fields.names (overlayFields f g) =
    Fields.names f ++ (Fields.names g).filter (· ∉ Fields.names f) := by
  rw [← Fields.names_union hd]
  clear hd
  induction g generalizing f with
  | nil => rw [overlayFields, Fields.union_nil]
  | cons m rest ih =>
    obtain ⟨k, y⟩ := m
    rw [overlayFields, Fields.union_cons, ih]
    exact Fields.names_union_congr (by rw [Fields.names_put, Fields.names_put])

/-- **Index by index**, the items of both are overlaid. -/
theorem getElem?_overlayItems (i : Nat) : (overlayItems xs ys)[i]? = overlaid xs[i]? ys[i]? := by
  induction xs generalizing ys i with
  | nil => rw [overlayItems_nil]; cases ys[i]? <;> rfl
  | cons x xs ih =>
    cases ys with
    | nil => rw [overlayItems]; exact (overlaid_none _).symm
    | cons y ys =>
      rw [overlayItems]
      cases i with
      | zero => rfl
      | succ i => exact ih i

/-! ## 2. Along a path -/

/-- **One path through both values**, through objects by names and through lists by indices. -/
inductive LeadsBoth : Json → Json → Path → Json → Json → Prop
  | here (t s : Json) : LeadsBoth t s [] t s
  | member {tag tag' : Tag} {f g : Fields} {name : String} {t s u v : Json} {rest : Path}
      (found : get? f name = some t) (found' : get? g name = some s) (next : LeadsBoth t s rest u v) :
      LeadsBoth (.obj tag f) (.obj tag' g) (name :: rest) u v
  | item {tag tag' : Tag} {xs ys : List Json} {i : Nat} {t s u v : Json} {rest : Path}
      (found : xs[i]? = some t) (found' : ys[i]? = some s) (next : LeadsBoth t s rest u v) :
      LeadsBoth (.arr tag xs) (.arr tag' ys) (Nat.repr i :: rest) u v

/-- What the path leads to in a proper value is proper. -/
theorem LeadsBoth.proper {u v : Json} {path : Path} (h : LeadsBoth t s path u v) (proper : s.Proper) :
    v.Proper := by
  induction h with
  | here => exact proper
  | member _ found' _ ih => exact ih (proper.of_get? found')
  | item _ found' _ ih => exact ih (proper.of_mem_items (List.mem_of_getElem? found'))

/-- **Where a path leads through both values, it leads to the overlay of what stands there.** -/
theorem leads_overlay {u v : Json} {path : Path} (proper : s.Proper) (h : LeadsBoth t s path u v) :
    Leads (overlay t s) path (overlay u v) := by
  induction h with
  | here t s => exact .here _
  | @member tag tag' f g name t s u v rest found found' _ ih =>
    have here : get? (overlayFields f g) name = some (overlay t s) := by
      rw [get?_overlayFields proper.distinct, found, found']
      rfl
    rw [overlay]
    exact .member here (ih (proper.of_get? found'))
  | @item tag tag' xs ys i t s u v rest found found' _ ih =>
    have here : (overlayItems xs ys)[i]? = some (overlay t s) := by
      rw [getElem?_overlayItems, found, found']
      rfl
    rw [overlay]
    exact .item here (ih (proper.of_mem_items (List.mem_of_getElem? found')))

/-- **What the source has and is no container is found in the overlay.** -/
theorem leads_overlay_of_leaf {path : Path} (proper : s.Proper) (h : Leads s path x)
    (leaf : Accessor.isContainer x = false) : Leads (overlay t s) path x := by
  induction h generalizing t with
  | here x =>
    rw [overlay_of_leaf leaf]
    exact .here x
  | @member tag' g name s x rest found next ih =>
    rcases overlay_cases t (.obj tag' g) with
      ⟨tag, _, f, _, rfl, ⟨⟩, laid⟩ | ⟨_, _, _, _, -, ⟨⟩, -⟩ | replaced
    · rw [laid]
      cases hf : get? f name with
      | none =>
        refine .member ?_ next
        rw [get?_overlayFields proper.distinct, hf, found]
        rfl
      | some y =>
        refine .member ?_ (ih (t := y) (proper.of_get? found) leaf)
        rw [get?_overlayFields proper.distinct, hf, found]
        rfl
    · rw [replaced]
      exact .member found next
  | @item tag' ys i s x rest found next ih =>
    rcases overlay_cases t (.arr tag' ys) with
      ⟨_, _, _, _, -, ⟨⟩, -⟩ | ⟨tag, _, xs, _, rfl, ⟨⟩, laid⟩ | replaced
    · rw [laid]
      cases hx : xs[i]? with
      | none =>
        refine .item ?_ next
        rw [getElem?_overlayItems, hx, found]
        rfl
      | some y =>
        refine .item ?_ (ih (t := y) (proper.of_mem_items (List.mem_of_getElem? found)) leaf)
        rw [getElem?_overlayItems, hx, found]
        rfl
    · rw [replaced]
      exact .item found next

/-! ## 3. Once more -/

/-- **Laying the same source over an overlay changes nothing.** -/
theorem overlay_overlay (proper : s.Proper) : overlay (overlay t s) s = overlay t s := by
  induction s using Json.induction generalizing t with
  | step s ih =>
    rcases overlay_cases t s with
      ⟨tag, tag', f, g, -, rfl, laid⟩ | ⟨tag, tag', xs, ys, -, rfl, laid⟩ | replaced
    · rw [laid, overlay]
      refine congrArg (Json.obj tag) (overlayFields_of_mem fun k y hm => ?_)
      rw [get?_overlayFields proper.distinct, Fields.get?_of_mem proper.distinct hm]
      cases get? f k with
      | none => exact ⟨y, rfl, overlay_self (proper.of_mem_fields hm)⟩
      | some x =>
        exact ⟨overlay x y, rfl, ih y (List.mem_map.2 ⟨_, hm, rfl⟩) (proper.of_mem_fields hm)⟩
    · rw [laid, overlay]
      refine congrArg (Json.arr tag) (List.ext_getElem? fun i => ?_)
      rw [getElem?_overlayItems, getElem?_overlayItems]
      cases hy : ys[i]? with
      | none => rw [overlaid_none, overlaid_none]
      | some y =>
        have hm := List.mem_of_getElem? hy
        cases xs[i]? with
        | none => exact congrArg some (overlay_self (proper.of_mem_items hm))
        | some x => exact congrArg some (ih y hm (proper.of_mem_items hm))
    · rw [replaced, overlay_self proper]

/-- **An overlay takes the source in and leaves the rest.**  Whatever is no container is found in the overlay
where it stands in the source.  Where a path leads through both values to two objects, it leads in the
overlay to one that has the members of the first in their places and the new ones behind them, and those
that the source does not have are as they were; where it leads to two lists, so are the items behind those
of the source.  Laying the source over once more changes nothing, and laying it over itself does not
either. -/
theorem overlay_absorbs {t s : Json} (proper : s.Proper) :
    (∀ path x, Leads s path x → Accessor.isContainer x = false → Leads (overlay t s) path x) ∧
    (∀ path tag tag' f g, LeadsBoth t s path (.obj tag f) (.obj tag' g) →
      ∃ h, Leads (overlay t s) path (.obj tag h) ∧ (∀ k ∉ Fields.names g, get? h k = get? f k) ∧
        Fields.names h = Fields.names f ++ (Fields.names g).filter (· ∉ Fields.names f)) ∧
    (∀ path tag tag' xs ys, LeadsBoth t s path (.arr tag xs) (.arr tag' ys) →
      ∃ zs, Leads (overlay t s) path (.arr tag zs) ∧ ∀ i, ys.length ≤ i → zs[i]? = xs[i]?) ∧
    overlay (overlay t s) s = overlay t s ∧ overlay s s = s := by
  refine ⟨fun path x h => leads_overlay_of_leaf proper h, fun path tag tag' f g h => ?_,
    fun path tag tag' xs ys h => ?_, overlay_overlay proper, overlay_self proper⟩
  · have distinct : Fields.Distinct g := (h.proper proper).distinct
    have led := leads_overlay proper h
    rw [overlay] at led
    refine ⟨_, led, fun k hk => ?_, names_overlayFields distinct⟩
    rw [get?_overlayFields distinct, Fields.get?_eq_none_iff.2 hk, overlaid_none]
  · have led := leads_overlay proper h
    rw [overlay] at led
    refine ⟨_, led, fun i hi => ?_⟩
    rw [getElem?_overlayItems, List.getElem?_eq_none hi, overlaid_none]

/-- Objects, a list that is shorter than the source and one that is longer, an object that meets a list, and
a new member. -/
theorem overlay_absorbs_shapes :
    let one : Json := .num (.int 1)
    let t : Json := .obj none [("a", .arr none [one, .null, one]), ("b", .obj none [("x", one)]),
      ("c", .arr none [.str "s"])]
    let s : Json := .obj none [("c", .arr none [.null, .arr none []]), ("b", .arr none [one]),
      ("d", .obj none [("y", .bool true)]), ("a", .arr none [.obj none [("z", .null)]])]
    let r : Json := .obj none [
      ("a", .arr none [.obj none [("z", .null)], .null, one]), ("b", .arr none [one]),
      ("c", .arr none [.null, .arr none []]), ("d", .obj none [("y", .bool true)])]
    s.Proper ∧ overlay t s = r ∧ Leads s ["a", "0", "z"] .null ∧ Leads (overlay t s) ["a", "0", "z"] .null ∧
      overlay (overlay t s) s = overlay t s := by
  intro one t s r
  have proper : s.Proper := by decide
  have found : Leads s ["a", "0", "z"] .null :=
    .member rfl (.item (i := 0) rfl (.member rfl (.here _)))
  obtain ⟨leaves, -, -, again, -⟩ := overlay_absorbs (t := t) proper
  exact ⟨proper, by decide +kernel, found, leaves _ _ found rfl, again⟩

end Json

end Conform
