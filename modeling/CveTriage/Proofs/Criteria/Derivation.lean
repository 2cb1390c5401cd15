import CveTriage.Evaluation.Matcher
import Mathlib.Data.Set.Card
import Mathlib.Logic.Basic
import Mathlib.Order.Monotone.Basic

/-!
# Criteria and derivations

The evaluation of criteria finds what has a derivation, and a large bound on nesting finds
everything that has one.
-/

set_option autoImplicit false

namespace CveTriage

/-! ## Criteria hold exactly when they have a derivation

The evaluation of criteria asks the children of a node one after the other and
stops as soon as the answer is known. Seen from outside, a loop in which every
child must hold looks at the required number of children from the front
(`enoughHold_every_iff`), and any other loop counts the children that hold
(`enoughHold_some_iff`). With the number of children that each operator
requires this gives the rules for one node (`nodeHolds_childHolds_iff`).

Both the evaluation and the derivations are built from the rules for one node:
the evaluation with one level less for what is nested, the derivations with a
nesting that is deeper by one. Levels and nesting always add up to one more
than the bound, so the two agree at every node (`holdsWithin_iff_holdsAt`), and
at the root in particular (`criteriaHold_iff_holdsAt`).
-/

namespace Matcher

/-! ### Asking children in turn -/

section Children

variable {holds : Child → Bool}

/-- When every child must hold, the required number of children from the front do. -/
theorem enoughHold_every_iff (required : Nat) (children : List Child) :
    enoughHold holds true required children = true ↔
      required ≤ children.length ∧ ∀ child ∈ children.take required, holds child = true := by
  induction children generalizing required with
  | nil => cases required <;> simp [enoughHold]
  | cons child rest ih =>
      cases required with
      | zero => simp [enoughHold]
      | succ missing =>
          by_cases met : holds child = true
          · simp [enoughHold, met, ih]
          · simp [enoughHold, met]

/-- When not every child must hold, enough of them do, wherever they stand. -/
theorem enoughHold_some_iff (required : Nat) (children : List Child) :
    enoughHold holds false required children = true ↔ required ≤ children.countP holds := by
  induction children generalizing required with
  | nil => cases required <;> simp [enoughHold]
  | cons child rest ih =>
      cases required with
      | zero => simp [enoughHold]
      | succ missing =>
          by_cases met : holds child = true
          · simp [enoughHold, met, ih]
          · simp [enoughHold, met, ih]

variable {node : Criteria}

/-- A node that asks for all children holds when they all do. -/
theorem nodeHolds_of_all (operator : node.operator = .all) :
    nodeHolds holds node = true ↔ ∀ child ∈ node.askedChildren, holds child = true := by
  simp only [nodeHolds, operator]
  rw [enoughHold_every_iff, List.take_length]
  exact ⟨fun enough => enough.2, fun every => ⟨Nat.le_refl _, every⟩⟩

/-- A node that asks for any child holds when it has none or one of them does. -/
theorem nodeHolds_of_any (operator : node.operator = .any) :
    nodeHolds holds node = true ↔
      node.askedChildren = [] ∨ ∃ child ∈ node.askedChildren, holds child = true := by
  simp only [nodeHolds, operator]
  rw [enoughHold_some_iff]
  cases children : node.askedChildren with
  | nil => simp
  | cons first rest =>
      have one : min (first :: rest).length 1 = 1 := by simp
      rw [one, Nat.one_le_iff_ne_zero, ← Nat.pos_iff_ne_zero, List.countP_pos_iff]
      simp

end Children

/-! ### Tests and states -/

variable {matcher : Matcher} {nameId : NameId} {nevra : Nevra}

theorem moduleTestHolds_iff {id : ModuleTestId} :
    matcher.moduleTestHolds id = true ↔ matcher.ModuleTestMet id := by
  unfold moduleTestHolds ModuleTestMet
  cases matcher.index.moduleTest id <;> simp

/-- An architecture is admitted when none is listed or it is listed itself. -/
theorem admits_iff {architectures : List ArchitectureId} {arch : String} :
    matcher.admits architectures arch = true ↔
      architectures = [] ∨
        ∃ id, matcher.index.architectureId arch = some id ∧ id ∈ architectures := by
  simp [admits, Option.any_eq_true]

/-- A state holds when the package compares as required and its architecture is admitted. -/
theorem stateHolds_iff {state : PackageState} :
    matcher.stateHolds state nevra = true ↔ matcher.StateMet nevra state := by
  rw [stateHolds, Bool.and_eq_true, admits_iff]
  refine and_congr_left fun _ => ?_
  cases operation : state.operation <;> simp [comparesAs, Evr.isOlder]

theorem testHolds_iff {id : TestId} :
    matcher.testHolds nameId nevra id = true ↔ matcher.TestMet nameId nevra id := by
  unfold testHolds TestMet
  cases matcher.index.test id with
  | none => simp
  | some test =>
      cases policy : test.policy <;>
        simp [policy, stateIdHolds, Option.any_eq_true, stateHolds_iff]

/-! ### The rules for one node -/

theorem forall_mem_askedChildren {node : Criteria} {met : Child → Prop} :
    (∀ child ∈ node.askedChildren, met child) ↔
      (∀ test ∈ node.moduleTests, met (.moduleTest test)) ∧
        (∀ test ∈ node.tests, met (.test test)) ∧ ∀ child ∈ node.children, met (.node child) := by
  simp only [Criteria.askedChildren, List.forall_mem_append, List.forall_mem_map, and_assoc]

theorem exists_mem_askedChildren {node : Criteria} {met : Child → Prop} :
    (∃ child ∈ node.askedChildren, met child) ↔
      (∃ test ∈ node.moduleTests, met (.moduleTest test)) ∨
        (∃ test ∈ node.tests, met (.test test)) ∨ ∃ child ∈ node.children, met (.node child) := by
  simp only [Criteria.askedChildren, List.mem_append, List.mem_map, or_and_right, exists_or,
    exists_exists_and_eq_and, or_assoc]

theorem askedChildren_eq_nil_iff {node : Criteria} :
    node.askedChildren = [] ↔ Childless node := by
  simp only [Criteria.askedChildren, Childless, List.append_eq_nil_iff, List.map_eq_nil_iff,
    and_assoc]

/-- Given what nested nodes do, a node holds by the rule for its operator. -/
theorem nodeHolds_childHolds_iff {nestedHolds : CriteriaId → Bool} {node : Criteria} :
    nodeHolds (matcher.childHolds nameId nevra nestedHolds) node = true ↔
      matcher.NodeMet nameId nevra (nestedHolds · = true) node := by
  unfold NodeMet
  cases operator : node.operator with
  | all =>
      rw [nodeHolds_of_all operator, forall_mem_askedChildren]
      simp [childHolds, moduleTestHolds_iff, testHolds_iff]
  | any =>
      rw [nodeHolds_of_any operator, askedChildren_eq_nil_iff, exists_mem_askedChildren]
      simp [childHolds, moduleTestHolds_iff, testHolds_iff]
  | unsupported code => simp [nodeHolds, operator]

/-- A node that holds still holds for a package that passes the same tests, given at
least the same nested nodes. -/
theorem NodeMet.imp {other : Nevra} {nested more : CriteriaId → Prop} {node : Criteria}
    (tests : ∀ test ∈ node.tests, matcher.TestMet nameId nevra test →
      matcher.TestMet nameId other test)
    (children : ∀ child ∈ node.children, nested child → more child)
    (met : matcher.NodeMet nameId nevra nested node) : matcher.NodeMet nameId other more node := by
  rcases met with ⟨operator, moduleTests, allTests, allChildren⟩ |
    ⟨operator, none | someModuleTest | ⟨test, member, met⟩ | ⟨child, member, holds⟩⟩
  · exact .inl ⟨operator, moduleTests, fun test member => tests test member (allTests test member),
      fun child member => children child member (allChildren child member)⟩
  · exact .inr ⟨operator, .inl none⟩
  · exact .inr ⟨operator, .inr (.inl someModuleTest)⟩
  · exact .inr ⟨operator, .inr (.inr (.inl ⟨test, member, tests test member met⟩))⟩
  · exact .inr ⟨operator, .inr (.inr (.inr ⟨child, member, children child member holds⟩))⟩

/-- A node that is looked up holds on one level more than what is nested in it. -/
theorem holdsWithin_succ_iff {levels : Nat} {id : CriteriaId} :
    matcher.holdsWithin nameId nevra (levels + 1) id = true ↔
      ∃ node, matcher.index.criteria id = some node ∧
        matcher.NodeMet nameId nevra (matcher.holdsWithin nameId nevra levels · = true) node := by
  rw [holdsWithin]
  cases known : matcher.index.criteria id with
  | none => simp
  | some node => simp [nodeHolds_childHolds_iff]

/-- What is derived is not nested too deeply. -/
theorem HoldsAt.le_maxDepth {nesting : Nat} {id : CriteriaId}
    (holds : matcher.HoldsAt nameId nevra nesting id) : nesting ≤ matcher.maxDepth := by
  cases holds <;> assumption

/-- A derivation within the bound ends in the rule for the operator of the node. -/
theorem holdsAt_iff {nesting : Nat} {id : CriteriaId} :
    matcher.HoldsAt nameId nevra nesting id ↔
      nesting ≤ matcher.maxDepth ∧ ∃ node, matcher.index.criteria id = some node ∧
        matcher.NodeMet nameId nevra (matcher.HoldsAt nameId nevra (nesting + 1)) node := by
  constructor
  · intro holds
    refine ⟨holds.le_maxDepth, ?_⟩
    cases holds with
    | all _ known operator moduleTests tests children =>
        exact ⟨_, known, .inl ⟨operator, moduleTests, tests, children⟩⟩
    | childless _ known operator childless =>
        exact ⟨_, known, .inr ⟨operator, .inl childless⟩⟩
    | moduleTest _ known operator member met =>
        exact ⟨_, known, .inr ⟨operator, .inr (.inl ⟨_, member, met⟩)⟩⟩
    | test _ known operator member met =>
        exact ⟨_, known, .inr ⟨operator, .inr (.inr (.inl ⟨_, member, met⟩))⟩⟩
    | child _ known operator member holds =>
        exact ⟨_, known, .inr ⟨operator, .inr (.inr (.inr ⟨_, member, holds⟩))⟩⟩
  · rintro ⟨within, node, known, ⟨operator, moduleTests, tests, children⟩ | ⟨operator, some⟩⟩
    · exact .all within known operator moduleTests tests children
    · rcases some with none | ⟨_, member, met⟩ | ⟨_, member, met⟩ | ⟨_, member, holds⟩
      · exact .childless within known operator none
      · exact .moduleTest within known operator member met
      · exact .test within known operator member met
      · exact .child within known operator member holds

/-! ### Evaluation and derivations -/

/-- **With as many levels as the bound leaves below a nesting, the evaluation
finds exactly the nodes that have a derivation there.** -/
theorem holdsWithin_iff_holdsAt (levels : Nat) {nesting : Nat}
    (total : levels + nesting = matcher.maxDepth + 1) {id : CriteriaId} :
    matcher.holdsWithin nameId nevra levels id = true ↔
      matcher.HoldsAt nameId nevra nesting id := by
  induction levels generalizing nesting id with
  | zero =>
      have tooDeep : ¬nesting ≤ matcher.maxDepth := by omega
      simp only [holdsAt_iff, holdsWithin, tooDeep, false_and, Bool.false_eq_true]
  | succ levels ih =>
      have nested : (matcher.holdsWithin nameId nevra levels · = true) =
          matcher.HoldsAt nameId nevra (nesting + 1) :=
        funext fun child => propext (ih (by omega))
      have within : nesting ≤ matcher.maxDepth := by omega
      rw [holdsWithin_succ_iff, holdsAt_iff, nested]
      exact (and_iff_right within).symm

/-- **Criteria hold for a package exactly when their root has a derivation in
which no node is nested more deeply than the bound allows.** -/
theorem criteriaHold_iff_holdsAt (matcher : Matcher) (id : CriteriaId) (nameId : NameId)
    (nevra : Nevra) :
    matcher.criteriaHold id nameId nevra = true ↔ matcher.HoldsAt nameId nevra 0 id :=
  holdsWithin_iff_holdsAt (matcher.maxDepth + 1) rfl

end Matcher

/-! ## The bound on nesting

A derivation within a bound is a derivation within every larger one, and it
stays one when more module streams are active: no rule asks that something does
not hold (`HoldsAt.extend`). Without its bound it is a derivation of any depth
(`HoldsAt.holds`), and the nodes with a derivation of any depth are the least
set that is closed under the rules (`isLeast_holds`).

A bound of at least the number of nodes loses none of them. The nodes that hold
on one level more are determined by those that hold on the present level, so
the sets of nodes that hold grow strictly until they stop for good. They cannot
grow more often than there are nodes, even if the nodes refer to each other in
cycles (`reached_succ_eq`). The set at which they stop is closed under the
rules, hence everything that holds is in it (`criteriaHold_iff_holds`).
-/

/-- There are finitely many identifiers of every kind. -/
instance (kind : IdKind) : Finite (Id kind) := by
  have injective : Function.Injective fun id : Id kind => id.number.toFin := by
    rintro ⟨left⟩ ⟨right⟩ same
    exact congrArg Id.mk (UInt32.toFin_inj.1 same)
  exact Finite.of_injective _ injective

/-- The identifiers under which the index has a criteria node. -/
def Index.criteriaIds (index : Index) : Set CriteriaId :=
  {id | (index.criteria id).isSome}

namespace Matcher

variable {matcher larger : Matcher} {nameId : NameId} {nevra : Nevra} {node : Criteria}
  {id : CriteriaId} {nodes : Set CriteriaId}

/-! ### Larger matchers -/

/-- The larger matcher knows the same index, sees every active stream of the
smaller one and looks at least as deep. -/
structure Extends (matcher larger : Matcher) : Prop where
  index : matcher.index = larger.index
  modules : ∀ module stream : String,
    matcher.modules[module]? = some stream → larger.modules[module]? = some stream
  maxDepth : matcher.maxDepth ≤ larger.maxDepth

theorem ModuleTestMet.extend (more : matcher.Extends larger) {test : ModuleTestId}
    (met : matcher.ModuleTestMet test) : larger.ModuleTestMet test := by
  obtain ⟨required, known, active⟩ := met
  exact ⟨required, more.index ▸ known, more.modules _ _ active⟩

theorem TestMet.extend (more : matcher.Extends larger) {test : TestId}
    (met : matcher.TestMet nameId nevra test) : larger.TestMet nameId nevra test := by
  unfold TestMet StateMet at met ⊢
  rw [← more.index]
  exact met

/-- **Derivations remain when there is more to derive from.** -/
theorem HoldsAt.extend (more : matcher.Extends larger) {nesting : Nat}
    (holds : matcher.HoldsAt nameId nevra nesting id) :
    larger.HoldsAt nameId nevra nesting id := by
  induction holds with
  | all within known operator moduleTests tests _ ih =>
      exact .all (within.trans more.maxDepth) (more.index ▸ known) operator
        (fun test member => (moduleTests test member).extend more)
        (fun test member => (tests test member).extend more) ih
  | childless within known operator childless =>
      exact .childless (within.trans more.maxDepth) (more.index ▸ known) operator childless
  | moduleTest within known operator member met =>
      exact .moduleTest (within.trans more.maxDepth) (more.index ▸ known) operator member
        (met.extend more)
  | test within known operator member met =>
      exact .test (within.trans more.maxDepth) (more.index ▸ known) operator member
        (met.extend more)
  | child within known operator member _ ih =>
      exact .child (within.trans more.maxDepth) (more.index ▸ known) operator member ih

/-- Criteria that hold still hold for a larger matcher. -/
theorem Extends.criteriaHold (more : matcher.Extends larger)
    (holds : matcher.criteriaHold id nameId nevra = true) :
    larger.criteriaHold id nameId nevra = true := by
  have derived : matcher.HoldsAt nameId nevra 0 id :=
    (holdsWithin_iff_holdsAt (matcher.maxDepth + 1) rfl).1 holds
  exact (holdsWithin_iff_holdsAt (larger.maxDepth + 1) rfl).2 (derived.extend more)

/-! ### Rules without a bound -/

/-- A node that holds given some nodes holds given more of them. -/
theorem NodeMet.mono {nested more : CriteriaId → Prop} (imp : ∀ id, nested id → more id)
    (met : matcher.NodeMet nameId nevra nested node) : matcher.NodeMet nameId nevra more node :=
  met.imp (fun _ _ passed => passed) fun child _ => imp child

/-- A set of nodes is closed when it has every node that holds by its rule given
the nodes of the set. -/
def Closed (matcher : Matcher) (nameId : NameId) (nevra : Nevra) (nodes : Set CriteriaId) : Prop :=
  ∀ id node, matcher.index.criteria id = some node →
    matcher.NodeMet nameId nevra (· ∈ nodes) node → id ∈ nodes

/-- The rule for a node can be applied to nodes with derivations. -/
theorem holds_of_nodeMet (known : matcher.index.criteria id = some node)
    (met : matcher.NodeMet nameId nevra (matcher.Holds nameId nevra) node) :
    matcher.Holds nameId nevra id := by
  rcases met with ⟨operator, moduleTests, tests, children⟩ |
    ⟨operator, none | ⟨_, member, met⟩ | ⟨_, member, met⟩ | ⟨_, member, holds⟩⟩
  · exact .all known operator moduleTests tests children
  · exact .childless known operator none
  · exact .moduleTest known operator member met
  · exact .test known operator member met
  · exact .child known operator member holds

theorem Holds.mem_of_closed (closed : matcher.Closed nameId nevra nodes)
    (holds : matcher.Holds nameId nevra id) : id ∈ nodes := by
  induction holds with
  | all known operator moduleTests tests _ ih =>
      exact closed _ _ known (.inl ⟨operator, moduleTests, tests, ih⟩)
  | childless known operator childless =>
      exact closed _ _ known (.inr ⟨operator, .inl childless⟩)
  | moduleTest known operator member met =>
      exact closed _ _ known (.inr ⟨operator, .inr (.inl ⟨_, member, met⟩)⟩)
  | test known operator member met =>
      exact closed _ _ known (.inr ⟨operator, .inr (.inr (.inl ⟨_, member, met⟩))⟩)
  | child known operator member _ ih =>
      exact closed _ _ known (.inr ⟨operator, .inr (.inr (.inr ⟨_, member, ih⟩))⟩)

/-- **The nodes with a derivation are the least closed set.** -/
theorem isLeast_holds :
    IsLeast {nodes | matcher.Closed nameId nevra nodes} {id | matcher.Holds nameId nevra id} :=
  ⟨fun _ _ known met => holds_of_nodeMet known met, fun _ closed _ holds =>
    holds.mem_of_closed closed⟩

/-- The bound can be forgotten. -/
theorem HoldsAt.holds {nesting : Nat} (holds : matcher.HoldsAt nameId nevra nesting id) :
    matcher.Holds nameId nevra id := by
  induction holds with
  | all _ known operator moduleTests tests _ ih => exact .all known operator moduleTests tests ih
  | childless _ known operator childless => exact .childless known operator childless
  | moduleTest _ known operator member met => exact .moduleTest known operator member met
  | test _ known operator member met => exact .test known operator member met
  | child _ known operator member _ ih => exact .child known operator member ih

/-! ### Nodes that hold on a number of levels -/

section Levels

variable (matcher nameId nevra)

/-- The nodes that hold when they and what is below them may take up the given
number of levels. -/
def reached (levels : Nat) : Set CriteriaId :=
  {id | matcher.holdsWithin nameId nevra levels id = true}

variable {matcher nameId nevra}

theorem mem_reached_succ_iff {levels : Nat} :
    id ∈ matcher.reached nameId nevra (levels + 1) ↔
      ∃ node, matcher.index.criteria id = some node ∧
        matcher.NodeMet nameId nevra (· ∈ matcher.reached nameId nevra levels) node :=
  holdsWithin_succ_iff

theorem reached_subset_succ (levels : Nat) :
    matcher.reached nameId nevra levels ⊆ matcher.reached nameId nevra (levels + 1) := by
  induction levels with
  | zero =>
      intro id member
      cases member
  | succ levels ih =>
      intro id member
      obtain ⟨node, known, met⟩ := mem_reached_succ_iff.1 member
      exact mem_reached_succ_iff.2 ⟨node, known, met.mono fun _ nested => ih nested⟩

theorem reached_subset_criteriaIds (levels : Nat) :
    matcher.reached nameId nevra levels ⊆ matcher.index.criteriaIds := by
  intro id member
  cases levels with
  | zero => cases member
  | succ levels =>
      obtain ⟨node, known, -⟩ := mem_reached_succ_iff.1 member
      simp [Index.criteriaIds, known]

/-- The sets that are reached have different sizes until they are the same. -/
theorem reached_eq_of_ncard_eq {levels : Nat}
    (same : (matcher.reached nameId nevra levels).ncard =
      (matcher.reached nameId nevra (levels + 1)).ncard) :
    matcher.reached nameId nevra levels = matcher.reached nameId nevra (levels + 1) :=
  Set.eq_of_subset_of_ncard_le (reached_subset_succ levels) same.ge

/-- What is reached on the next level depends only on what is reached. -/
theorem reached_succ_congr {levels : Nat}
    (same : matcher.reached nameId nevra levels = matcher.reached nameId nevra (levels + 1)) :
    matcher.reached nameId nevra (levels + 1) = matcher.reached nameId nevra (levels + 2) := by
  ext id
  rw [mem_reached_succ_iff, mem_reached_succ_iff, same]

/-- **As many levels as there are nodes reach all that can be reached.** -/
theorem reached_succ_eq {levels : Nat} (enough : matcher.index.criteriaIds.ncard ≤ levels) :
    matcher.reached nameId nevra levels = matcher.reached nameId nevra (levels + 1) := by
  have grows : Monotone fun levels => (matcher.reached nameId nevra levels).ncard :=
    monotone_nat_of_le_succ fun levels => Set.ncard_le_ncard (reached_subset_succ levels)
  have bounded : ∀ levels,
      (matcher.reached nameId nevra levels).ncard ≤ matcher.index.criteriaIds.ncard :=
    fun levels => Set.ncard_le_ncard (reached_subset_criteriaIds levels)
  have stops : ∀ levels, (matcher.reached nameId nevra levels).ncard =
        (matcher.reached nameId nevra (levels + 1)).ncard →
      (matcher.reached nameId nevra (levels + 1)).ncard =
        (matcher.reached nameId nevra (levels + 2)).ncard :=
    fun levels same => congrArg Set.ncard (reached_succ_congr (reached_eq_of_ncard_eq same))
  have here := Nat.stabilises_of_monotone grows bounded stops enough
  have next := Nat.stabilises_of_monotone grows bounded stops (enough.trans (Nat.le_succ levels))
  exact reached_eq_of_ncard_eq (here.trans next.symm)

/-- A set of nodes that is reached for good is closed. -/
theorem closed_reached {levels : Nat}
    (same : matcher.reached nameId nevra levels = matcher.reached nameId nevra (levels + 1)) :
    matcher.Closed nameId nevra (matcher.reached nameId nevra levels) := by
  intro id node known met
  rw [same]
  exact mem_reached_succ_iff.2 ⟨node, known, met⟩

end Levels

/-- **A bound that leaves a level for every node is as good as none.** -/
theorem criteriaHold_iff_holds
    (enough : matcher.index.criteriaIds.ncard ≤ matcher.maxDepth + 1) :
    matcher.criteriaHold id nameId nevra = true ↔ matcher.Holds nameId nevra id := by
  constructor
  · intro holds
    have derived : matcher.HoldsAt nameId nevra 0 id :=
      (holdsWithin_iff_holdsAt (matcher.maxDepth + 1) rfl).1 holds
    exact derived.holds
  · intro holds
    exact holds.mem_of_closed (closed_reached (reached_succ_eq enough))

/-- The rules without a bound do not depend on the bound of the matcher. -/
theorem Holds.of_maxDepth {index : Index} {modules : Std.ExtTreeMap String String}
    {bound other : Nat} (holds : (⟨index, modules, bound⟩ : Matcher).Holds nameId nevra id) :
    (⟨index, modules, other⟩ : Matcher).Holds nameId nevra id := by
  have closed : (⟨index, modules, bound⟩ : Matcher).Closed nameId nevra
      {id | (⟨index, modules, other⟩ : Matcher).Holds nameId nevra id} := by
    intro id node known met
    have metAlike : (⟨index, modules, other⟩ : Matcher).NodeMet nameId nevra
        ((⟨index, modules, other⟩ : Matcher).Holds nameId nevra) node := met
    exact holds_of_nodeMet known metAlike
  exact holds.mem_of_closed closed

/-- A node that may hold for its own sake or for the sake of a second node,
which asks for nothing. -/
def selfReferringIndex : Index :=
  { Index.empty .epoch with
    criteria := fun id =>
      if id.number = 1 then some ⟨⟨1⟩, .any, [], [], [⟨1⟩, ⟨2⟩]⟩
      else if id.number = 2 then some ⟨⟨2⟩, .all, [], [], []⟩ else none }

theorem ncard_criteriaIds_selfReferringIndex : selfReferringIndex.criteriaIds.ncard ≤ 2 := by
  have listed : selfReferringIndex.criteriaIds ⊆ {⟨1⟩, ⟨2⟩} := by
    rintro ⟨number⟩ known
    simp only [Index.criteriaIds, selfReferringIndex, Set.mem_ofPred_eq] at known
    split at known
    next first => exact .inl (congrArg Id.mk first)
    next =>
      split at known
      next second => exact .inr (congrArg Id.mk second)
      next => cases known
  exact (Set.ncard_le_ncard listed).trans (Set.ncard_insert_le _ _) |>.trans (by simp)

end Matcher

end CveTriage
