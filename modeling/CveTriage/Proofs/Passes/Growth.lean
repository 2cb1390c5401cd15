import CveTriage.Proofs.Passes.Evidence

/-!
# Buckets only grow

Passes and merges of single pieces of evidence may follow each other in any
order, and each may be given anything. Still no vulnerability leaves its bucket,
and what is known about it is only ever continued: later packages and errata
stand behind the earlier ones (`Buckets.GrowsInto`).

Of the loops of a pass nothing matters but what comes out of them. Every
operation merges some pieces of evidence into its own bucket
(`Operation.exists_run_eq_modify`); which pieces these are may depend on the
buckets. So all that has to be looked at is the merge of one piece, which opens a
detail or continues one (`CveMap.growsInto_merge`, `CveMap.Filed.merge`).
-/

set_option autoImplicit false

namespace CveTriage

open Std (ExtTreeMap)

/-! ## Details that are continued -/

/-- The later detail is about the same vulnerability and continues both lists. -/
structure Detail.GrowsInto (earlier later : Detail) : Prop where
  cve : later.cve = earlier.cve
  affectedPackages : earlier.affectedPackages.toList <+: later.affectedPackages.toList
  errata : earlier.errata.toList <+: later.errata.toList

namespace Detail.GrowsInto

theorem refl (detail : Detail) : detail.GrowsInto detail :=
  ⟨rfl, List.prefix_refl _, List.prefix_refl _⟩

theorem trans {first second third : Detail} (earlier : first.GrowsInto second)
    (later : second.GrowsInto third) : first.GrowsInto third where
  cve := later.cve.trans earlier.cve
  affectedPackages := earlier.affectedPackages.trans later.affectedPackages
  errata := earlier.errata.trans later.errata

/-- A further piece of evidence stands behind the earlier ones. -/
theorem extend (detail : Detail) (piece : Evidence) :
    detail.GrowsInto (Detail.extend (some detail) piece) where
  cve := rfl
  affectedPackages := ⟨[piece.package], by simp [Detail.extend]⟩
  errata := ⟨piece.errata, by simp [Detail.extend]⟩

end Detail.GrowsInto

theorem Detail.affectedPackages_extend_ne_empty (detail : Option Detail) (piece : Evidence) :
    (Detail.extend detail piece).affectedPackages ≠ #[] := by
  cases detail <;> simp [Detail.extend]

namespace CveMap

variable {cves : CveMap}

/-- Every vulnerability stays, and its detail is continued. -/
def GrowsInto (earlier later : CveMap) : Prop :=
  ∀ (cve : String) (detail : Detail), earlier[cve]? = some detail →
    ∃ grown, later[cve]? = some grown ∧ detail.GrowsInto grown

theorem GrowsInto.refl (cves : CveMap) : cves.GrowsInto cves :=
  fun _ detail found => ⟨detail, found, .refl detail⟩

theorem GrowsInto.trans {first second third : CveMap} (earlier : first.GrowsInto second)
    (later : second.GrowsInto third) : first.GrowsInto third := by
  intro cve detail found
  obtain ⟨grown, foundGrown, grows⟩ := earlier cve detail found
  obtain ⟨last, foundLast, growsOn⟩ := later cve grown foundGrown
  exact ⟨last, foundLast, grows.trans growsOn⟩

/-- One piece of evidence continues the detail that it is about, if there is one. -/
theorem growsInto_merge (cves : CveMap) (piece : Evidence) : cves.GrowsInto (cves.merge piece) := by
  intro cve detail found
  rw [getElem?_merge]
  by_cases about : piece.cve = cve
  · rw [if_pos about, found]
    exact ⟨_, rfl, .extend detail piece⟩
  · rw [if_neg about]
    exact ⟨detail, found, .refl detail⟩

theorem growsInto_mergeAll (cves : CveMap) (pieces : List Evidence) :
    cves.GrowsInto (cves.mergeAll pieces) := by
  induction pieces generalizing cves with
  | nil => exact .refl cves
  | cons piece rest ih => exact (growsInto_merge cves piece).trans (ih (cves.merge piece))

/-- Every detail is stored under the vulnerability that it is about, and names a package. -/
def Filed (cves : CveMap) : Prop :=
  ∀ (cve : String) (detail : Detail), cves[cve]? = some detail →
    detail.cve = cve ∧ detail.affectedPackages ≠ #[]

theorem filed_empty : Filed ∅ := by
  intro cve detail found
  rw [ExtTreeMap.getElem?_empty] at found
  cases found

theorem Filed.merge (filed : cves.Filed) (piece : Evidence) : (cves.merge piece).Filed := by
  intro cve detail found
  rw [getElem?_merge] at found
  by_cases about : piece.cve = cve
  · rw [if_pos about] at found
    obtain rfl := Option.some.inj found
    refine ⟨?_, Detail.affectedPackages_extend_ne_empty _ _⟩
    cases before : cves[cve]? with
    | none => exact about
    | some known => exact (filed cve known before).1
  · rw [if_neg about] at found
    exact filed cve detail found

theorem Filed.mergeAll (filed : cves.Filed) (pieces : List Evidence) :
    (cves.mergeAll pieces).Filed := by
  induction pieces generalizing cves with
  | nil => exact filed
  | cons piece rest ih => exact ih (filed.merge piece)

theorem mergeAll_flatMap {α : Type} (sources : List α) (pieces : α → List Evidence) :
    cves.mergeAll (sources.flatMap pieces) =
      sources.foldl (fun cves source => cves.mergeAll (pieces source)) cves :=
  List.foldl_flatMap

end CveMap

/-! ## One bucket of three -/

/-- The names of the buckets. -/
inductive Bucket where
  | unpatched
  | fixable
  | manuallyFixable
deriving DecidableEq

namespace Buckets

variable {buckets : Buckets} {bucket other : Bucket} {change : CveMap → CveMap}

/-- The bucket of the given name. -/
def get (buckets : Buckets) : Bucket → CveMap
  | .unpatched => buckets.unpatched
  | .fixable => buckets.fixable
  | .manuallyFixable => buckets.manuallyFixable

/-- The buckets with one of them changed. -/
def modify (buckets : Buckets) (bucket : Bucket) (change : CveMap → CveMap) : Buckets :=
  match bucket with
  | .unpatched => { buckets with unpatched := change buckets.unpatched }
  | .fixable => { buckets with fixable := change buckets.fixable }
  | .manuallyFixable => { buckets with manuallyFixable := change buckets.manuallyFixable }

@[simp]
theorem get_modify_self :
    (buckets.modify bucket change).get bucket = change (buckets.get bucket) := by
  cases bucket <;> rfl

theorem get_modify_of_ne (differs : other ≠ bucket) :
    (buckets.modify bucket change).get other = buckets.get other := by
  cases bucket <;> cases other <;> simp [get, modify] at differs ⊢

@[simp]
theorem lastChange_modify : (buckets.modify bucket change).lastChange = buckets.lastChange := by
  cases bucket <;> rfl

theorem modify_modify (again : CveMap → CveMap) :
    (buckets.modify bucket change).modify bucket again =
      buckets.modify bucket (again ∘ change) := by
  cases bucket <;> rfl

/-- What is known of every vulnerability in every bucket is continued, and the data
are as old as before. -/
structure GrowsInto (earlier later : Buckets) : Prop where
  details : ∀ bucket, (earlier.get bucket).GrowsInto (later.get bucket)
  lastChange : later.lastChange = earlier.lastChange

theorem GrowsInto.refl (buckets : Buckets) : buckets.GrowsInto buckets :=
  ⟨fun _ => .refl _, rfl⟩

theorem GrowsInto.trans {first second third : Buckets} (earlier : first.GrowsInto second)
    (later : second.GrowsInto third) : first.GrowsInto third where
  details bucket := (earlier.details bucket).trans (later.details bucket)
  lastChange := later.lastChange.trans earlier.lastChange

theorem growsInto_modify_mergeAll (buckets : Buckets) (bucket : Bucket) (pieces : List Evidence) :
    buckets.GrowsInto (buckets.modify bucket (·.mergeAll pieces)) := by
  refine ⟨fun other => ?_, lastChange_modify⟩
  by_cases same : other = bucket
  · subst same
    rw [get_modify_self]
    exact CveMap.growsInto_mergeAll _ pieces
  · rw [get_modify_of_ne same]
    exact .refl _

/-- Every detail is stored under the vulnerability that it is about, and names a package. -/
def Filed (buckets : Buckets) : Prop :=
  ∀ bucket, (buckets.get bucket).Filed

theorem filed_empty (lastChange : Instant) : (empty lastChange).Filed := by
  intro bucket
  cases bucket <;> exact CveMap.filed_empty

theorem Filed.modify_mergeAll (filed : buckets.Filed) (bucket : Bucket) (pieces : List Evidence) :
    (buckets.modify bucket (·.mergeAll pieces)).Filed := by
  intro other
  by_cases same : other = bucket
  · subst same
    rw [get_modify_self]
    exact (filed other).mergeAll pieces
  · rw [get_modify_of_ne same]
    exact filed other

end Buckets

/-! ## Passes and merges -/

/-- The bucket that a pass fills. -/
def PassCall.bucket : PassCall → Bucket
  | .unpatched .. => .unpatched
  | .fixable .. => .fixable
  | .manuallyFixable .. => .manuallyFixable

/-- A pass, or the merge of one piece of evidence into one of the buckets. -/
inductive Operation where
  | pass (call : PassCall)
  | merge (bucket : Bucket) (piece : Evidence)

namespace Operation

/-- The bucket that an operation fills. -/
def bucket : Operation → Bucket
  | .pass call => call.bucket
  | .merge bucket _ => bucket

/-- The buckets after an operation. -/
def run : Operation → Buckets → Buckets
  | .pass call, buckets => call.run buckets
  | .merge bucket piece, buckets => buckets.modify bucket (·.merge piece)

/-- The buckets after operations, one after the other. -/
def runAll (operations : List Operation) (buckets : Buckets) : Buckets :=
  operations.foldl (fun buckets operation => operation.run buckets) buckets

theorem runAll_append (operations others : List Operation) (buckets : Buckets) :
    runAll (operations ++ others) buckets = runAll others (runAll operations buckets) :=
  List.foldl_append

end Operation

variable {index : Index} {judgement : Judgement} {buckets : Buckets}

/-- One patch definition merges what is left of its evidence, or nothing. -/
theorem exists_manuallyFixableStep_eq_modify (group : DefinitionGroup) :
    ∃ pieces, manuallyFixableStep index judgement buckets group =
      buckets.modify .manuallyFixable (·.mergeAll pieces) := by
  unfold manuallyFixableStep
  split
  · exact ⟨[], rfl⟩
  · exact ⟨_, rfl⟩

/-- A pass over patch definitions merges the evidence of one after the other. -/
theorem exists_manuallyFixablePass_eq_modify (groups : List DefinitionGroup) :
    ∃ pieces, groups.foldl (manuallyFixableStep index judgement) buckets =
      buckets.modify .manuallyFixable (·.mergeAll pieces) := by
  induction groups generalizing buckets with
  | nil => exact ⟨[], rfl⟩
  | cons group rest ih =>
      obtain ⟨first, stepped⟩ := @exists_manuallyFixableStep_eq_modify index judgement buckets group
      obtain ⟨others, passed⟩ := @ih (manuallyFixableStep index judgement buckets group)
      refine ⟨first ++ others, ?_⟩
      rw [List.foldl_cons, passed, stepped, Buckets.modify_modify]
      simp only [CveMap.mergeAll, List.foldl_append, Function.comp_def]

/-- **An operation merges some pieces of evidence into its own bucket.** -/
theorem Operation.exists_run_eq_modify (operation : Operation) (buckets : Buckets) :
    ∃ pieces, operation.run buckets = buckets.modify operation.bucket (·.mergeAll pieces) := by
  cases operation with
  | merge bucket piece => exact ⟨[piece], rfl⟩
  | pass call =>
      cases call with
      | unpatched index judgement groups =>
          refine ⟨groups.values.flatMap (·.evidence index judgement), ?_⟩
          simp only [bucket, PassCall.bucket, Buckets.modify, CveMap.mergeAll_flatMap]
          rfl
      | fixable index updates => exact ⟨_, rfl⟩
      | manuallyFixable index judgement groups =>
          exact exists_manuallyFixablePass_eq_modify groups.values

theorem Operation.growsInto_run (operation : Operation) (buckets : Buckets) :
    buckets.GrowsInto (operation.run buckets) := by
  obtain ⟨pieces, same⟩ := operation.exists_run_eq_modify buckets
  rw [same]
  exact buckets.growsInto_modify_mergeAll operation.bucket pieces

theorem Operation.growsInto_runAll (operations : List Operation) (buckets : Buckets) :
    buckets.GrowsInto (runAll operations buckets) := by
  induction operations generalizing buckets with
  | nil => exact .refl buckets
  | cons operation rest ih => exact (operation.growsInto_run buckets).trans (ih _)

theorem Operation.get_run_of_ne {operation : Operation} {bucket : Bucket}
    (differs : bucket ≠ operation.bucket) :
    (operation.run buckets).get bucket = buckets.get bucket := by
  obtain ⟨pieces, same⟩ := operation.exists_run_eq_modify buckets
  rw [same, Buckets.get_modify_of_ne differs]

namespace Buckets.Filed

theorem run (filed : buckets.Filed) (operation : Operation) : (operation.run buckets).Filed := by
  obtain ⟨pieces, same⟩ := operation.exists_run_eq_modify buckets
  rw [same]
  exact filed.modify_mergeAll operation.bucket pieces

theorem runAll (filed : buckets.Filed) (operations : List Operation) :
    (Operation.runAll operations buckets).Filed := by
  induction operations generalizing buckets with
  | nil => exact filed
  | cons operation rest ih => exact ih (filed.run operation)

end Buckets.Filed

/-- **Buckets only grow.** In a run of passes and merges in any order, what the
buckets hold at one point is continued at every later point. An operation fills
its own bucket and changes neither the others nor the time of the last change.
Buckets that are well filed at the start are so at every later point. -/
theorem growsInto_of_runAll :
    (∀ (buckets : Buckets) (earlier later : List Operation), earlier <+: later →
      (Operation.runAll earlier buckets).GrowsInto (Operation.runAll later buckets)) ∧
    (∀ (buckets : Buckets) (operation : Operation),
      (operation.run buckets).lastChange = buckets.lastChange ∧
        ∀ bucket, bucket ≠ operation.bucket →
          (operation.run buckets).get bucket = buckets.get bucket) ∧
    (∀ buckets : Buckets, buckets.Filed →
      ∀ operations, (Operation.runAll operations buckets).Filed) := by
  refine ⟨?_, ?_, fun _ filed => filed.runAll⟩
  · intro buckets earlier later interrupted
    obtain ⟨rest, rfl⟩ := interrupted
    rw [Operation.runAll_append]
    exact Operation.growsInto_runAll rest _
  · intro buckets operation
    exact ⟨(operation.growsInto_run buckets).lastChange, fun bucket => Operation.get_run_of_ne⟩

/-- Buckets in which the first vulnerability is unpatched. -/
def startedBuckets : Buckets :=
  { Buckets.empty .epoch with unpatched := CveMap.merge ∅ ⟨"CVE-1", "bash-5-1", []⟩ }

theorem filed_startedBuckets : startedBuckets.Filed :=
  (Buckets.filed_empty .epoch).run (.merge .unpatched ⟨"CVE-1", "bash-5-1", []⟩)

/-- The passes in the wrong order, and a merge into the bucket of the second one. -/
def unorderedOperations : List Operation :=
  overlappingCalls.reverse.map .pass ++ [.merge .fixable ⟨"CVE-2", "zsh-5-9", ["RHSA-2"]⟩]

/-- The last pass and the merge find again what was found before. -/
theorem growsInto_of_runAll_unorderedOperations :
    let earlier := Operation.runAll (overlappingCalls.reverse.map .pass) startedBuckets
    let later := Operation.runAll unorderedOperations startedBuckets
    startedBuckets.Filed ∧ later.Filed ∧ earlier.GrowsInto later ∧
      later.unpatched["CVE-1"]? = some ⟨"CVE-1", #["bash-5-1", "bash-5-1"], #[]⟩ ∧
      earlier.fixable["CVE-2"]? = some ⟨"CVE-2", #["bash-5-1"], #["RHSA-1"]⟩ ∧
      later.fixable["CVE-2"]? =
        some ⟨"CVE-2", #["bash-5-1", "zsh-5-9"], #["RHSA-1", "RHSA-2"]⟩ :=
  ⟨filed_startedBuckets, growsInto_of_runAll.2.2 _ filed_startedBuckets _,
    growsInto_of_runAll.1 _ _ _ (List.prefix_append _ _), by rfl, by rfl, by rfl⟩

end CveTriage
