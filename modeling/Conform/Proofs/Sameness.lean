/-
# The same values, the same verdict

Values of one canonical text are a likeness (`Json.Equated`), so the probe ends in the same way for both,
as long as nothing that it comes to measures a number: division alone sees more of a number than its worth.

What the probe comes to are the parts of the schema, and what its references stand for: nodes of the root
document or whatever else a lookup gives, with the keywords beside the reference merged into them.  That no
number stands under `multipleOf` lasts on the way, so it is enough that there is none anywhere in the schema
and in the root document, nor in what references lead to outside of it.
-/
import Conform.Proofs.Agreement
import Conform.Proofs.Deciding
import Conform.Proofs.Leading
import Conform.Proofs.Texts

namespace Conform

open Fields (get?)
open Schema (Lasting ProperWith)

variable {tag : Tag} {fields : Fields} {s : Json}

namespace Probe

variable {setting : Setting}

/-! ## 1. Schemas that measure no number -/

/-- **No number stands under `multipleOf`.** -/
def Measureless (k : String) (x : Json) : Prop := k = "multipleOf" → x.isNumber = false

instance {k : String} {x : Json} : Decidable (Measureless k x) := inferInstanceAs (Decidable (_ → _))

/-- Neither uniting nor merging puts a number under `multipleOf`. -/
theorem lasting_measureless : Lasting Measureless :=
  Schema.lasting_of_untouched (by decide) rfl (fun _ => rfl) fun _ => rfl

theorem unmeasured_of_properWith (h : ProperWith Measureless (.obj tag fields)) : Unmeasured fields :=
  fun _ hd => absurd (h.of_mem (Json.mem_of_get? hd) rfl) Bool.noConfusion

/-! ## 2. The verdict -/

/-- **The probe ends alike for values of one text**, against a schema without measures. -/
theorem agree_issues_of_equated {x y : Json} {p q : Path} (ha : setting.options.accessor = .direct)
    (hroot : ProperWith Measureless setting.root)
    (carries : setting.options.source.Carries Measureless)
    (hs : ProperWith Measureless s) (h : Json.Equated x y) :
    Concur (issues setting x s p) (issues setting y s q) :=
  agree_issues_of Json.Equated.likeness ha
    (fun _ _ _ hs hc => (closed_properWith lasting_measureless hroot carries).comprises.of_mem_asked hs hc)
    (fun _ _ hs => .inr (unmeasured_of_properWith hs)) h hs p q

end Probe

open Probe (Measureless)

/-- **The same values get the same verdict.**  Two values with one canonical text, which may differ in the
order of members and in how whole numbers are written, are probed against a schema, within any document;
no number stands under `multipleOf` in the schema or in the document, and references carry this to what they
lead to, as they do within the document (`carries_document`) and from a table of such schemas
(`carries_table`).  Then the probe stops with a fault
for both or for neither, and it finds no issues in the one if and only if it finds none in the other.  That
doubles which are no whole numbers can be told apart by their texts is asked of those only that occur in
the two values. -/
theorem same_values_same_verdict {session : Session} {schema a b : Json}
    (direct : session.options.accessor = .direct)
    (root_unmeasured : ProperWith Measureless session.root)
    (carries : session.options.source.Carries Measureless)
    (unmeasured : ProperWith Measureless schema) (proper_a : a.Proper) (proper_b : b.Proper)
    (told : ∀ d ∈ a.fractions, ∀ e ∈ b.fractions,
      d.render Double.documentStyle = e.render Double.documentStyle → d = e)
    (same : Json.same a b = true) :
    let endAlike (x y : Except Fault (List Issue)) : Prop :=
      ((∃ fault, x = .error fault) ↔ ∃ fault, y = .error fault) ∧ (x = .ok [] ↔ y = .ok [])
    (∀ path, endAlike (session.validate (some a) schema path) (session.validate (some b) schema path)) ∧
      endAlike (validateValue (some a) schema session.options)
        (validateValue (some b) schema session.options) := by
  intro endAlike
  have equated : Json.Equated a b := ⟨beq_iff_eq.1 same, proper_a, proper_b, told⟩
  have within : ∀ root path, ProperWith Measureless root →
      Probe.Concur (Probe.issues ⟨session.options, root⟩ a schema path)
        (Probe.issues ⟨session.options, root⟩ b schema path) :=
    fun _ _ hroot => Probe.agree_issues_of_equated direct hroot carries unmeasured equated
  constructor
  · intro path
    have agree := within session.root (path.getD session.options.currentPath) root_unmeasured
    exact ⟨agree.error_iff, agree.nil_iff⟩
  · have agree := within schema session.options.currentPath unmeasured
    exact ⟨agree.error_iff, agree.nil_iff⟩

/-- The order of two members is changed, and the way in which two whole numbers are written. -/
theorem same_values_same_verdict_whole_numbers :
    let one : Double := .finite false 4503599627370496 (-52) (by decide)
    let two : Double := .finite false 4503599627370496 (-51) (by decide)
    let half : Double := .finite false 4503599627370496 (-53) (by decide)
    let a : Json := .obj none [("x", .num (.int 1)), ("y", .arr none [.num (.float two), .num (.float half)])]
    let b : Json := .obj none [("y", .arr none [.num (.int 2), .num (.float half)]), ("x", .num (.float one))]
    let schema : Json := .obj none [("properties", .obj none [("x", .obj none [("type", .str "integer")])]),
      ("additionalProperties", .obj none [("$ref", .str "#"), ("title", .str "further")]),
      ("required", .arr none [.str "y"])]
    Json.same a b = true ∧ half ∈ a.fractions ∧
      (validateValue (some a) schema .default = .ok [] ↔ validateValue (some b) schema .default = .ok []) := by
  intro one two half a b schema
  have proper_a : a.Proper := by decide
  have proper_b : b.Proper := by decide
  have unmeasured : ProperWith Measureless schema := by decide
  have same : Json.same a b = true := by
    have ones : Json.canonicalNumber (.float one) = Json.canonicalNumber (.int 1) := by decide +kernel
    have twos : Json.canonicalNumber (.float two) = Json.canonicalNumber (.int 2) := by decide +kernel
    have sorted : ∀ s t : String, Json.sortByName [("y", t), ("x", s)] = Json.sortByName [("x", s), ("y", t)] :=
      fun s t => Json.sortByName_eq_of_perm (.swap ..) (by simp)
    simp only [a, b, Json.same, beq_iff_eq, Json.canonical, Json.canonicalFields, Json.canonicalItems,
      ones, twos, sorted]
  have listed_a : a.fractions = [half] := by decide +kernel
  have listed_b : b.fractions = [half] := by decide +kernel
  have told : ∀ d ∈ a.fractions, ∀ e ∈ b.fractions,
      d.render Double.documentStyle = e.render Double.documentStyle → d = e := by
    rw [listed_a, listed_b]
    intro d hd e he _
    rw [List.mem_singleton.1 hd, List.mem_singleton.1 he]
  obtain ⟨-, -, alike⟩ := @same_values_same_verdict (Session.start .default schema) schema a b rfl unmeasured
    Reference.carries_document unmeasured proper_a proper_b told same
  exact ⟨same, listed_a ▸ List.mem_singleton_self _, alike⟩

end Conform
