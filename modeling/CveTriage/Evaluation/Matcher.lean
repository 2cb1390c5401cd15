import CveTriage.Host
import CveTriage.Index.Build

/-!
# Criteria and packages

Whether criteria hold for a package: as it is evaluated, and as it follows from rules.
-/

set_option autoImplicit false

namespace CveTriage

open Std (ExtTreeMap)

/-! ## Criteria

Criteria nodes combine module tests, package tests and further nodes. The
nodes form a graph rather than a tree: nodes may be shared, may refer to nodes
that are missing, and may even refer back to themselves. So nesting is
bounded, and what is nested too deeply does not hold.

Everything that is missing or has a code without a meaning does not hold
either, and only that. The three lists of children are asked one after the
other, and no longer than it takes to know the answer (`enoughHold`): a node of
either operator waits for a number of children that hold, all of them or one.
-/

/-- What criteria are held against, apart from the package. -/
structure Matcher where
  index : Index
  /-- The active stream of every module. -/
  modules : ExtTreeMap String String
  /-- How deeply criteria nodes may be nested below the root. -/
  maxDepth : Nat

/-- The bound on nesting unless another one is chosen. -/
def defaultMaxDepth : Nat := 64

/-- A child of a criteria node. -/
inductive Child where
  | moduleTest (id : ModuleTestId)
  | test (id : TestId)
  | node (id : CriteriaId)
deriving DecidableEq

/-- The children of a node in the order in which they are asked. -/
def Criteria.askedChildren (node : Criteria) : List Child :=
  node.moduleTests.map .moduleTest ++ node.tests.map .test ++ node.children.map .node

namespace Matcher

/-- Whether the stream that a module test requires is active. -/
def moduleTestHolds (matcher : Matcher) (id : ModuleTestId) : Bool :=
  match matcher.index.moduleTest id with
  | some required => matcher.modules[required.module]? == some required.stream
  | none => false

/-- Whether the architecture of a package is among the admitted ones. -/
def admits (matcher : Matcher) (architectures : List ArchitectureId) (arch : String) : Bool :=
  architectures.isEmpty || (matcher.index.architectureId arch).any architectures.contains

/-- Whether a package compares to a target as required. -/
def comparesAs (operation : EvrOperation) (nevra : Nevra) (target : Evr) : Bool :=
  match operation with
  | .equals => nevra.evr == target
  | .lessThan => nevra.evr.isOlder target
  | .unsupported _ => false

/-- Whether a package is in a state. -/
def stateHolds (matcher : Matcher) (state : PackageState) (nevra : Nevra) : Bool :=
  comparesAs state.operation nevra state.evr && matcher.admits state.architectures nevra.arch

/-- Whether a package is in the state with the given identifier. -/
def stateIdHolds (matcher : Matcher) (nevra : Nevra) (id : StateId) : Bool :=
  (matcher.index.state id).any (matcher.stateHolds · nevra)

/-- Whether a package passes a test. -/
def testHolds (matcher : Matcher) (nameId : NameId) (nevra : Nevra) (id : TestId) : Bool :=
  match matcher.index.test id with
  | none => false
  | some test =>
    match test.policy with
    | .atLeastOne =>
      nameId == test.nameId &&
        (test.states.isEmpty || test.states.any (matcher.stateIdHolds nevra))
    | .noneExist => nameId != test.nameId
    | .unsupported _ => false

/-- Whether enough children hold. They are asked in order, until as many hold as
are required; if every child must hold, the first that does not ends it too. -/
def enoughHold (holds : Child → Bool) (everyMust : Bool) : Nat → List Child → Bool
  | 0, _ => true
  | _ + 1, [] => false
  | missing + 1, child :: rest =>
    if holds child then enoughHold holds everyMust missing rest
    else if everyMust then false
    else enoughHold holds everyMust (missing + 1) rest

/-- Whether a node holds, given which of its children do. A node that asks for
any child asks for none when it has none. -/
def nodeHolds (holds : Child → Bool) (node : Criteria) : Bool :=
  let children := node.askedChildren
  match node.operator with
  | .all => enoughHold holds true children.length children
  | .any => enoughHold holds false (min children.length 1) children
  | .unsupported _ => false

/-- Whether a child of a node holds, given which of the nested nodes do. -/
def childHolds (matcher : Matcher) (nameId : NameId) (nevra : Nevra)
    (nestedHolds : CriteriaId → Bool) : Child → Bool
  | .moduleTest id => matcher.moduleTestHolds id
  | .test id => matcher.testHolds nameId nevra id
  | .node id => nestedHolds id

/-- Whether a criteria node holds when it and what is below it may take up at
most the given number of levels. -/
def holdsWithin (matcher : Matcher) (nameId : NameId) (nevra : Nevra) : Nat → CriteriaId → Bool
  | 0, _ => false
  | levels + 1, id =>
    match matcher.index.criteria id with
    | none => false
    | some node =>
      nodeHolds (matcher.childHolds nameId nevra (matcher.holdsWithin nameId nevra levels)) node

/-- Whether the criteria with the given root hold for a package. -/
def criteriaHold (matcher : Matcher) (id : CriteriaId) (nameId : NameId) (nevra : Nevra) : Bool :=
  matcher.holdsWithin nameId nevra (matcher.maxDepth + 1) id

end Matcher

/-! ## Derivations of criteria

When criteria hold, said by rules instead of by evaluation. Tests and states
have direct conditions. For nodes there are two systems of rules: one counts
how deeply a node is nested below the root and stops at the bound
(`HoldsAt`), the other knows no bound (`Holds`) and defines the least set of
nodes that is closed under the rules for the two operators.
-/

namespace Matcher

variable (matcher : Matcher) (nameId : NameId) (nevra : Nevra)

/-- The required stream of the module test is active. -/
def ModuleTestMet (id : ModuleTestId) : Prop :=
  ∃ required, matcher.index.moduleTest id = some required ∧
    matcher.modules[required.module]? = some required.stream

/-- The package is in the state: it compares to the target as required, and
its architecture is known and admitted unless all are. -/
def StateMet (state : PackageState) : Prop :=
  ((state.operation = .equals ∧ nevra.evr = state.evr) ∨
    (state.operation = .lessThan ∧ nevra.evr.compare state.evr = .lt)) ∧
  (state.architectures = [] ∨
    ∃ arch, matcher.index.architectureId nevra.arch = some arch ∧ arch ∈ state.architectures)

/-- The package passes the test. -/
def TestMet (id : TestId) : Prop :=
  ∃ test, matcher.index.test id = some test ∧
    ((test.policy = .atLeastOne ∧ nameId = test.nameId ∧
        (test.states = [] ∨ ∃ stateId ∈ test.states, ∃ state,
          matcher.index.state stateId = some state ∧ matcher.StateMet nevra state)) ∨
      (test.policy = .noneExist ∧ nameId ≠ test.nameId))

/-- The node has no child of any kind. -/
def Childless (node : Criteria) : Prop :=
  node.moduleTests = [] ∧ node.tests = [] ∧ node.children = []

/-- The node holds by the rule for its operator, given which nested nodes hold. -/
def NodeMet (nested : CriteriaId → Prop) (node : Criteria) : Prop :=
  (node.operator = .all ∧ (∀ test ∈ node.moduleTests, matcher.ModuleTestMet test) ∧
    (∀ test ∈ node.tests, matcher.TestMet nameId nevra test) ∧
    ∀ child ∈ node.children, nested child) ∨
  (node.operator = .any ∧ (Childless node ∨
    (∃ test ∈ node.moduleTests, matcher.ModuleTestMet test) ∨
    (∃ test ∈ node.tests, matcher.TestMet nameId nevra test) ∨
    ∃ child ∈ node.children, nested child))

/-- The node, nested as deeply as given, holds by a derivation within the bound. -/
inductive HoldsAt : Nat → CriteriaId → Prop where
  /-- Every child of the node holds. -/
  | all {nesting : Nat} {id : CriteriaId} {node : Criteria}
      (within : nesting ≤ matcher.maxDepth) (known : matcher.index.criteria id = some node)
      (operator : node.operator = .all)
      (moduleTests : ∀ test ∈ node.moduleTests, matcher.ModuleTestMet test)
      (tests : ∀ test ∈ node.tests, matcher.TestMet nameId nevra test)
      (children : ∀ child ∈ node.children, HoldsAt (nesting + 1) child) : HoldsAt nesting id
  /-- The node asks for any child and has none. -/
  | childless {nesting : Nat} {id : CriteriaId} {node : Criteria}
      (within : nesting ≤ matcher.maxDepth) (known : matcher.index.criteria id = some node)
      (operator : node.operator = .any) (childless : Childless node) : HoldsAt nesting id
  /-- One of the module tests holds. -/
  | moduleTest {nesting : Nat} {id : CriteriaId} {node : Criteria} {test : ModuleTestId}
      (within : nesting ≤ matcher.maxDepth) (known : matcher.index.criteria id = some node)
      (operator : node.operator = .any) (member : test ∈ node.moduleTests)
      (met : matcher.ModuleTestMet test) : HoldsAt nesting id
  /-- One of the package tests holds. -/
  | test {nesting : Nat} {id : CriteriaId} {node : Criteria} {test : TestId}
      (within : nesting ≤ matcher.maxDepth) (known : matcher.index.criteria id = some node)
      (operator : node.operator = .any) (member : test ∈ node.tests)
      (met : matcher.TestMet nameId nevra test) : HoldsAt nesting id
  /-- One of the nested nodes holds. -/
  | child {nesting : Nat} {id : CriteriaId} {node : Criteria} {child : CriteriaId}
      (within : nesting ≤ matcher.maxDepth) (known : matcher.index.criteria id = some node)
      (operator : node.operator = .any) (member : child ∈ node.children)
      (holds : HoldsAt (nesting + 1) child) : HoldsAt nesting id

/-- The node holds by a derivation of any depth. -/
inductive Holds : CriteriaId → Prop where
  | all {id : CriteriaId} {node : Criteria} (known : matcher.index.criteria id = some node)
      (operator : node.operator = .all)
      (moduleTests : ∀ test ∈ node.moduleTests, matcher.ModuleTestMet test)
      (tests : ∀ test ∈ node.tests, matcher.TestMet nameId nevra test)
      (children : ∀ child ∈ node.children, Holds child) : Holds id
  | childless {id : CriteriaId} {node : Criteria} (known : matcher.index.criteria id = some node)
      (operator : node.operator = .any) (childless : Childless node) : Holds id
  | moduleTest {id : CriteriaId} {node : Criteria} {test : ModuleTestId}
      (known : matcher.index.criteria id = some node) (operator : node.operator = .any)
      (member : test ∈ node.moduleTests) (met : matcher.ModuleTestMet test) : Holds id
  | test {id : CriteriaId} {node : Criteria} {test : TestId}
      (known : matcher.index.criteria id = some node) (operator : node.operator = .any)
      (member : test ∈ node.tests) (met : matcher.TestMet nameId nevra test) : Holds id
  | child {id : CriteriaId} {node : Criteria} {child : CriteriaId}
      (known : matcher.index.criteria id = some node) (operator : node.operator = .any)
      (member : child ∈ node.children) (holds : Holds child) : Holds id

end Matcher

end CveTriage
