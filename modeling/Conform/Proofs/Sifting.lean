/-
# What is left of the issues

Before issues are reported they are sifted twice.  Of those with the same message the first is kept; then
what says little goes, as long as something is left.  To say little is to be the message about choosing
among schemas, or a property missing at the top (`Issue.SaysLittle`).

The second sieve looks at three things, what says little, how deep an issue lies and whether it comes from
choosing among schemas, and falls back when nothing is left.  All of that comes to one rule, what says little
goes unless all does (`reported_eq`), and so sifting again changes nothing.

The order of the two has a price.  Messages are compared without their places, and a missing property says
little only at the top.  So the first sieve may keep a property missing at the top in place of one of the
same name missing further down, and the second drops it: then neither is reported.  Section 3 finds out when
exactly that happens.
-/
import Conform.Proofs.Deciding
import Conform.Proofs.Firsts

namespace Conform

namespace Issue

variable {issues : List Issue} {issue : Issue} {message : String}

/-! ## 1. What says little -/

/-- The issue is about choosing among schemas, or about a property missing at the top. -/
def SaysLittle (issue : Issue) : Prop :=
  issue.message = "Value must match exactly one schema in oneOf" ∨
    (∃ name, issue.message = "Missing required property" ++ name) ∧ issue.path.length ≤ 1

theorem isGeneric_iff : issue.isGeneric = true ↔ issue.SaysLittle := by
  have begins : missingStart.isPrefixOf issue.message.toList = true ↔
      ∃ name, issue.message = "Missing required property" ++ name := by
    rw [List.isPrefixOf_iff_prefix]
    constructor
    · rintro ⟨rest, h⟩
      have back : (String.ofList rest).toList = rest := String.toList_ofList
      refine ⟨String.ofList rest, String.toList_inj.1 ?_⟩
      rw [← h, String.toList_append, back]
      rfl
    · rintro ⟨name, h⟩
      exact ⟨name.toList, by rw [h, String.toList_append]; rfl⟩
  rw [isGeneric, Bool.or_eq_true, Bool.and_eq_true, begins, decide_eq_true_iff, beq_iff_eq]
  exact Iff.rfl

instance : DecidablePred SaysLittle := fun _ => decidable_of_iff _ isGeneric_iff

/-! ## 2. Sifting -/

/-- **The issues that say little are left out**, unless all do. -/
theorem withoutGeneric_eq (issues : List Issue) :
    withoutGeneric issues =
      if issues.all isGeneric then issues else issues.filter fun issue => !issue.isGeneric := by
  unfold withoutGeneric
  by_cases all : ∀ issue ∈ issues, issue.isGeneric = true
  · have kept : (issues.filter fun issue => !issue.isGeneric) = [] := by
      simpa using all
    simp [kept, List.all_eq_true.2 all]
  · obtain ⟨issue, hi, hg⟩ : ∃ issue ∈ issues, issue.isGeneric = false := by
      simpa using all
    have said : issue ∈ issues.filter fun issue => !issue.isGeneric := by
      simp [hi, hg]
    have some_left : (issues.filter fun issue => !issue.isGeneric).isEmpty = false := by
      cases left : issues.filter fun issue => !issue.isGeneric with
      | nil => rw [left] at said; cases said
      | cons => rfl
    have specific : issues.any isSpecific = true :=
      List.any_eq_true.2 ⟨issue, hi, by simp [isSpecific, hg]⟩
    have not_all : issues.all isGeneric = false := by
      rw [Bool.eq_false_iff]
      exact fun h => all (List.all_eq_true.1 h)
    cases some : issues.any isGeneric with
    | true => simp [specific, some_left, not_all]
    | false =>
      have whole : (issues.filter fun issue => !issue.isGeneric) = issues := by
        rw [List.filter_eq_self]
        simpa using some
      simp [whole, not_all]

theorem withoutGeneric_eq_nil : withoutGeneric issues = [] ↔ issues = [] := by
  rw [withoutGeneric_eq]
  split
  · exact Iff.rfl
  · next some =>
    refine ⟨fun none => absurd ?_ some, ?_⟩
    · simpa using none
    · rintro rfl
      rfl

/-- **What is reported**: of the first issues with each message those that do not say little, if there are
any, and all of them otherwise. -/
theorem reported_eq (issues : List Issue) :
    reported issues =
      if ∀ issue ∈ distinct issues, issue.SaysLittle then distinct issues
      else (distinct issues).filter fun issue => ¬issue.SaysLittle := by
  have little : ((distinct issues).all isGeneric = true) = ∀ issue ∈ distinct issues, issue.SaysLittle := by
    simp only [List.all_eq_true, isGeneric_iff]
  have kept : (fun issue : Issue => !issue.isGeneric) = fun issue => decide ¬issue.SaysLittle := by
    funext issue
    rw [decide_not, Bool.eq_iff_iff.2 (isGeneric_iff.trans decide_eq_true_iff.symm)]
  rw [reported, withoutGeneric_eq]
  simp only [little, kept]

/-- What is reported passes the first sieve. -/
theorem reported_sublist_distinct : (reported issues).Sublist (distinct issues) := by
  rw [reported_eq]
  split
  · exact List.Sublist.refl _
  · exact List.filter_sublist

/-- What is reported was found. -/
theorem mem_of_mem_reported (h : issue ∈ reported issues) : issue ∈ issues :=
  distinct_sublist.subset (reported_sublist_distinct.subset h)

/-- Whatever is reported of some issues, it is not nothing. -/
theorem reported_ne_nil (h : issues ≠ []) : reported issues ≠ [] := by
  intro none
  obtain ⟨issue, hi⟩ := List.exists_mem_of_ne_nil issues h
  obtain ⟨other, ho, -⟩ := exists_mem_distinct hi
  rw [withoutGeneric_eq_nil.1 none] at ho
  cases ho

theorem nodup_messages_reported : ((reported issues).map Issue.message).Nodup := by
  refine List.Nodup.sublist (reported_sublist_distinct.map _) ?_
  rw [distinct_eq_firstsFrom]
  exact nodup_map_firstsFrom

/-- What is reported is not sifted any further. -/
theorem reported_reported (issues : List Issue) : reported (reported issues) = reported issues := by
  have again : distinct (reported issues) = reported issues := by
    rw [distinct_eq_firstsFrom]
    exact firstsFrom_of_nodup nodup_messages_reported fun _ _ => List.not_mem_nil
  rw [reported_eq (reported issues), again]
  by_cases all : ∀ issue ∈ distinct issues, issue.SaysLittle
  · have whole : reported issues = distinct issues := by rw [reported_eq, if_pos all]
    rw [whole, if_pos all]
  · have sifted : ∀ issue ∈ reported issues, ¬issue.SaysLittle := by
      intro issue hi
      rw [reported_eq, if_neg all] at hi
      simpa using (List.mem_filter.1 hi).2
    split
    · rfl
    · rw [List.filter_eq_self]
      simpa using sifted

/-- **Sifting picks issues faithfully.**  Of some issues some are reported, in their order, each the first
with its message and no message twice; these are, of the first issues with each message, those that do not
say little, or all where all do.  Sifting them again changes nothing. -/
theorem reported_faithful (issues : List Issue) :
    (reported issues = [] ↔ issues = []) ∧
    (reported issues).Sublist issues ∧
    ((reported issues).map Issue.message).Nodup ∧
    (∀ issue ∈ reported issues,
      issues.find? (fun other => other.message == issue.message) = some issue) ∧
    reported issues =
      (if ∀ issue ∈ distinct issues, issue.SaysLittle then distinct issues
        else (distinct issues).filter fun issue => ¬issue.SaysLittle) ∧
    reported (reported issues) = reported issues := by
  refine ⟨⟨?_, ?_⟩, ?_, ?_, ?_, ?_, ?_⟩
  · intro none
    by_contra some_found
    exact reported_ne_nil some_found none
  · rintro rfl
    rfl
  · exact reported_sublist_distinct.trans distinct_sublist
  · exact nodup_messages_reported
  · intro issue hi
    exact mem_distinct_iff.1 (reported_sublist_distinct.subset hi)
  · exact reported_eq issues
  · exact reported_reported issues

/-! ## 3. What is not reported -/

/-- **A message is reported** if the first issue with it does not say little, or says little like all the
others. -/
theorem mem_messages_reported_iff :
    message ∈ (reported issues).map Issue.message ↔
      ∃ first, issues.find? (fun other => other.message == message) = some first ∧
        (first.SaysLittle → ∀ other ∈ distinct issues, other.SaysLittle) := by
  constructor
  · intro h
    obtain ⟨first, hf, rfl⟩ := List.mem_map.1 h
    refine ⟨first, mem_distinct_iff.1 (reported_sublist_distinct.subset hf), fun little => ?_⟩
    rw [reported_eq] at hf
    split at hf
    · next all => exact all
    · exact absurd little (by simpa using (List.mem_filter.1 hf).2)
  · rintro ⟨first, hf, little⟩
    have same : first.message = message := by simpa using List.find?_some hf
    subst same
    refine List.mem_map_of_mem ?_
    have kept : first ∈ distinct issues := mem_distinct_iff.2 hf
    rw [reported_eq]
    split
    · exact kept
    · next some_say =>
      refine List.mem_filter.2 ⟨kept, ?_⟩
      simpa using fun h => some_say (little h)

/-- **A message that says enough is lost** exactly where the first issue with it is a property missing at the
top, so that this one is kept of them, and does not stay, because another message says more. -/
theorem unreported_iff (hi : issue ∈ issues) (more : ¬issue.SaysLittle) :
    issue.message ∉ (reported issues).map Issue.message ↔
      (∃ name, issue.message = "Missing required property" ++ name) ∧
      (∃ first, issues.find? (fun other => other.message == issue.message) = some first ∧
        first.path.length ≤ 1) ∧
      ∃ other ∈ distinct issues, ¬other.SaysLittle := by
  have specific : issue.message ≠ "Value must match exactly one schema in oneOf" := fun h => more (.inl h)
  obtain ⟨first, hf⟩ : ∃ first, issues.find? (fun other => other.message == issue.message) = some first := by
    cases found : issues.find? fun other => other.message == issue.message with
    | none => exact absurd (List.find?_eq_none.1 found issue hi) (by simp)
    | some first => exact ⟨first, rfl⟩
  have same : first.message = issue.message := by simpa using List.find?_some hf
  have little : first.SaysLittle ↔
      (∃ name, issue.message = "Missing required property" ++ name) ∧ first.path.length ≤ 1 := by
    rw [SaysLittle, same]
    exact or_iff_right specific
  rw [mem_messages_reported_iff, hf]
  simp only [Option.some.injEq, exists_eq_left', little, Classical.not_imp, not_forall, and_assoc]

/-- A property missing further down, and after it one of the same name missing at the top: the message is
reported, although another one says more than the second issue. -/
theorem unreported_iff_deeper_first :
    let deeper : Issue := ⟨.missing "a", ["x", "a"]⟩
    let found : List Issue := [deeper, ⟨.missing "a", ["a"]⟩, ⟨.wrongKind .string, ["b"]⟩]
    deeper ∈ found ∧ ¬deeper.SaysLittle ∧ deeper.message ∈ (reported found).map Issue.message := by
  intro deeper found
  have listed : deeper ∈ found := List.mem_cons_self
  have more : ¬deeper.SaysLittle := by decide
  refine ⟨listed, more, ?_⟩
  by_contra lost
  obtain ⟨-, ⟨first, hf, top⟩, -⟩ := (unreported_iff listed more).1 lost
  cases hf
  exact absurd top (by decide)

end Issue

/-- A name that has to be there at the top and in a member, beside a text. -/
def requiredTwice : Json :=
  .obj none [("required", .arr none [.str "a"]),
    ("properties", .obj none [("a", .bool true), ("x", .obj none [("required", .arr none [.str "a"])]),
      ("b", .obj none [("type", .str "string")])])]

/-- **What is missing further down can get lost.**  The value lacks the name at the top and in the member,
and the text is a number.  The resolution finds all three issues; that the member lacks the name is not said
any more. -/
theorem deeper_missing_unreported :
    (Resolve.resolveAt ⟨.default, requiredTwice⟩ (Resolve.wholeRequest requiredTwice
      (some (.obj none [("x", .obj none []), ("b", .num (.int 1))])))).result =
        .ok (.failed [⟨.missing "a", ["a"]⟩, ⟨.missing "a", ["x", "a"]⟩, ⟨.wrongKind .string, ["b"]⟩]) ∧
    ¬Issue.SaysLittle ⟨.missing "a", ["x", "a"]⟩ ∧
    Issue.message ⟨.missing "a", ["x", "a"]⟩ ∉ (Issue.reported
      [⟨.missing "a", ["a"]⟩, ⟨.missing "a", ["x", "a"]⟩, ⟨.wrongKind .string, ["b"]⟩]).map Issue.message := by
  refine ⟨?_, ?_, ?_⟩
  · decide +kernel
  · decide
  · decide

end Conform
