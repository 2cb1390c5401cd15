import CveTriage.Evaluation.Grouping
import CveTriage.Proofs.Index.Build

/-!
# From packages to groups

The inventory of a host, what its packages mention, and the groups that are made of the
mentions.
-/

set_option autoImplicit false

namespace CveTriage

open Std (ExtTreeMap)

/-! ## What an inventory holds

An inventory leads from every package string of the request that spells an
identity to that identity, and from nothing else
(`getElem?_packages_inventory_iff`). How often a package is listed, and where,
does not show. Of prepared updates the entries for these packages are available
(`getElem?_available_prepared_iff`).
-/

section Inventory

variable {request : Request} {package : String} {nevra : Nevra}

theorem mem_parsedPackages_iff :
    (package, nevra) ∈ request.parsedPackages ↔
      package ∈ request.packages ∧ Nevra.parse package = .ok nevra := by
  simp only [Request.parsedPackages, List.mem_filterMap]
  constructor
  · rintro ⟨listed, member, parsed⟩
    cases read : Nevra.parse listed with
    | error cause => simp [read] at parsed
    | ok identity =>
        simp only [read, Option.some.injEq, Prod.mk.injEq] at parsed
        obtain ⟨rfl, rfl⟩ := parsed
        exact ⟨member, read⟩
  · rintro ⟨member, read⟩
    exact ⟨package, member, by rw [read]⟩

/-- Identities are read from the strings, so entries with one string have one identity. -/
theorem eq_of_mem_parsedPackages {identity : Nevra}
    (member : (package, nevra) ∈ request.parsedPackages)
    (other : (package, identity) ∈ request.parsedPackages) : identity = nevra := by
  have read := (mem_parsedPackages_iff.1 other).2
  rw [(mem_parsedPackages_iff.1 member).2] at read
  exact (Except.ok.inj read).symm

/-- **The packages of an inventory are those that spell an identity.** -/
theorem getElem?_packages_inventory_iff :
    request.inventory.packages[package]? = some nevra ↔
      package ∈ request.packages ∧ Nevra.parse package = .ok nevra := by
  have listed : request.inventory.packages[package]? =
      (lastWith? Prod.fst package request.parsedPackages).map Prod.snd :=
    getElem?_tableOf Prod.fst Prod.snd request.parsedPackages package
  rw [listed, Option.map_eq_some_iff, ← mem_parsedPackages_iff]
  constructor
  · rintro ⟨⟨_, _⟩, last, rfl⟩
    obtain ⟨member, rfl⟩ := lastWith?_eq_some last
    exact member
  · intro member
    obtain ⟨⟨listedPackage, identity⟩, last⟩ := exists_lastWith?_of_mem Prod.fst member
    obtain ⟨memberEntry, same⟩ := lastWith?_eq_some last
    obtain rfl : listedPackage = package := same
    exact ⟨_, last, eq_of_mem_parsedPackages member memberEntry⟩

theorem getElem?_available_prepared_iff {updates : UpdateList} {inventory : Inventory}
    {available : List AvailableUpdate} :
    ((UpdateSource.prepared updates).available inventory)[package]? = some available ↔
      updates[package]? = some available ∧ package ∈ inventory.packages := by
  simp only [UpdateSource.prepared, Std.ExtTreeMap.getElem?_filter', Option.filter_eq_some_iff,
    decide_eq_true_eq]

end Inventory

/-! ## What grouping packages yields

Grouping goes through all mentions twice: first to find their definitions,
where the first failure counts, and then to put each package into the group of
its definition.

A group is what the second walk makes of the mentions of its definition
(`getElem?_ofMentions`): there is none without a mention, and otherwise the
first mention names the definition and every mention adds its package.
-/

section Grouping

variable {index : Index} {packages : ExtTreeMap String Nevra} {candidates : Candidates}
  {package : TestedPackage} {id : DefinitionId} {definition : Definition}

theorem mem_testedPackages_iff :
    package ∈ testedPackages index packages ↔
      packages[package.package]? = some package.nevra ∧
        index.packageNameId package.nevra.name = some package.nameId := by
  simp only [testedPackages, List.mem_filterMap, Option.map_eq_some_iff]
  constructor
  · rintro ⟨⟨text, nevra⟩, listed, nameId, named, rfl⟩
    exact ⟨ExtTreeMap.mem_toList_iff_getElem?_eq_some.1 listed, named⟩
  · rintro ⟨found, named⟩
    exact ⟨(package.package, package.nevra),
      ExtTreeMap.mem_toList_iff_getElem?_eq_some.2 found, package.nameId, named, rfl⟩

/-- Packages are gone through in the order of their strings. -/
theorem pairwise_testedPackages (index : Index) (packages : ExtTreeMap String Nevra) :
    (testedPackages index packages).Pairwise fun first second =>
      compare first.package second.package = .lt := by
  refine List.Pairwise.filterMap _ ?_ ExtTreeMap.ordered_keys_toList
  intro first second less tested found other foundOther
  obtain ⟨_, -, rfl⟩ := Option.map_eq_some_iff.1 found
  obtain ⟨_, -, rfl⟩ := Option.map_eq_some_iff.1 foundOther
  exact less

/-- A package mentions the candidates among the definitions that list its name. -/
theorem mem_mentions_iff :
    (package, id) ∈ mentions index packages candidates ↔
      package ∈ testedPackages index packages ∧
        id ∈ index.packageNameDefinitions package.nameId ∧ candidates.contains id = true := by
  simp only [mentions, List.mem_flatMap, List.mem_map, List.mem_filter, Prod.mk.injEq]
  constructor
  · rintro ⟨_, tested, _, listed, rfl, rfl⟩
    exact ⟨tested, listed⟩
  · rintro ⟨tested, listed⟩
    exact ⟨package, tested, id, listed, rfl, rfl⟩

/-- The mentions depend on the names of the packages and on the candidates that
list them, and on nothing else. -/
theorem mentions_congr {other : Index} {others : Candidates}
    (named : ∀ name, index.packageNameId name = other.packageNameId name)
    (listed : ∀ nameId,
      (index.packageNameDefinitions nameId).filter candidates.contains =
        (other.packageNameDefinitions nameId).filter others.contains) :
    mentions index packages candidates = mentions other packages others := by
  have tested : testedPackages index packages = testedPackages other packages := by
    simp only [testedPackages, named]
  simp only [mentions, tested, listed]

theorem mentionedDefinition_eq_ok_iff :
    mentionedDefinition index id = .ok definition ↔
      index.definition id = some definition ∧
        (definition.type = .patch ∨ definition.type = .vulnerability) := by
  unfold mentionedDefinition
  cases found : index.definition id with
  | none => simp
  | some detail =>
      cases type : detail.type <;> simp [type] <;> rintro rfl <;> simp [type]

/-- The detail of the definition is missing or has a type without a meaning. -/
def Index.FailsFor (index : Index) (id : DefinitionId) (cause : GroupingError) : Prop :=
  (index.definition id = none ∧ cause = .missingDefinition id) ∨
    ∃ definition code, index.definition id = some definition ∧
      definition.type = .unsupported code ∧ cause = .unsupportedType definition.id code

theorem mentionedDefinition_eq_error_iff {cause : GroupingError} :
    mentionedDefinition index id = .error cause ↔ index.FailsFor id cause := by
  unfold mentionedDefinition Index.FailsFor
  cases found : index.definition id with
  | none => simp [eq_comm]
  | some definition => cases type : definition.type <;> simp [type, eq_comm]

/-- A mention becomes the same package with the detail of the definition. -/
theorem detail_eq_ok_iff {mention : TestedPackage × DefinitionId}
    {detail : TestedPackage × Definition} :
    (mentionedDefinition index mention.2).map (mention.1, ·) = .ok detail ↔
      mention.1 = detail.1 ∧ mentionedDefinition index mention.2 = .ok detail.2 := by
  obtain ⟨package, definition⟩ := detail
  cases mentionedDefinition index mention.2 <;> simp [Except.map]

/-- The details of the mentions are those of the definitions that are mentioned. -/
theorem mem_detailedMentions_iff {mentioned : List (TestedPackage × DefinitionId)}
    {details : List (TestedPackage × Definition)}
    (detailed : detailedMentions index mentioned = .ok details) :
    (package, definition) ∈ details ↔
      ∃ id, (package, id) ∈ mentioned ∧ mentionedDefinition index id = .ok definition := by
  rw [mem_of_mapM_eq_ok detailed]
  simp only [detail_eq_ok_iff]
  constructor
  · rintro ⟨⟨_, id⟩, member, rfl, found⟩
    exact ⟨id, member, found⟩
  · rintro ⟨id, member, found⟩
    exact ⟨(package, id), member, rfl, found⟩

/-- There are details when every definition that is mentioned has one, with a
type that has a meaning. -/
theorem exists_detailedMentions_eq_ok_iff {mentioned : List (TestedPackage × DefinitionId)} :
    (∃ details, detailedMentions index mentioned = .ok details) ↔
      ∀ mention ∈ mentioned,
        ∃ definition, mentionedDefinition index mention.2 = .ok definition := by
  unfold detailedMentions
  rw [exists_mapM_eq_ok_iff]
  refine forall_congr' fun mention => imp_congr_right fun _ => ?_
  cases mentionedDefinition index mention.2 <;> simp [Except.map]

/-! ### Groups -/

/-- The group that the mentions of one definition form. -/
def groupOf : List (TestedPackage × Definition) → Option DefinitionGroup
  | [] => none
  | first :: rest => some ⟨first.2.id, first.2.criteriaId, (first :: rest).map Prod.fst⟩

theorem packages_groupOf (mentions : List (TestedPackage × Definition)) :
    ((groupOf mentions).map (·.packages)).getD [] = mentions.map Prod.fst := by
  cases mentions <;> rfl

theorem isSome_groupOf_iff {mentions : List (TestedPackage × Definition)} :
    (groupOf mentions).isSome = true ↔ mentions ≠ [] := by
  cases mentions <;> simp [groupOf]

/-- **The group of a definition is what its mentions form.** -/
theorem getElem?_ofMentions (type : DefinitionType) (mentions : List (TestedPackage × Definition))
    (id : DefinitionId) :
    (Groups.ofMentions type mentions)[id]? =
      groupOf (mentions.filter fun mention => mention.2.type = type ∧ mention.2.id = id) := by
  have split : (mentions.filter fun mention => mention.2.type = type ∧ mention.2.id = id) =
      (mentions.filter fun mention => mention.2.type = type).filter
        fun mention => mention.2.id = id := by
    simp only [List.filter_filter, Bool.decide_and, Bool.and_comm]
  rw [split, Groups.ofMentions]
  induction mentions.filter fun mention => mention.2.type = type with
  | nil => simp [groupOf]
  | cons first rest ih =>
      rw [List.foldr_cons, Groups.add, ExtTreeMap.getElem?_alter]
      simp only [Std.compare_eq_iff_eq]
      by_cases same : first.2.id = id
      · rw [if_pos same, same, ih, packages_groupOf,
          List.filter_cons_of_pos (by simpa using same)]
        simp [groupOf, same]
      · rw [if_neg same, ih, List.filter_cons_of_neg (by simpa using same)]

/-- A group has identifier and root from a mention of its definition. -/
theorem exists_mention_of_getElem?_ofMentions {type : DefinitionType}
    {mentions : List (TestedPackage × Definition)} {id : DefinitionId} {group : DefinitionGroup}
    (formed : (Groups.ofMentions type mentions)[id]? = some group) :
    ∃ mention ∈ mentions, mention.2.type = type ∧ mention.2.id = id ∧
      group.definitionId = mention.2.id ∧ group.criteriaId = mention.2.criteriaId := by
  rw [getElem?_ofMentions] at formed
  cases same : mentions.filter fun mention => mention.2.type = type ∧ mention.2.id = id with
  | nil =>
      rw [same] at formed
      cases formed
  | cons first rest =>
      rw [same, groupOf, Option.some.injEq] at formed
      have member : first ∈ mentions.filter
          fun mention => mention.2.type = type ∧ mention.2.id = id :=
        same ▸ List.mem_cons_self
      rw [List.mem_filter, decide_eq_true_iff] at member
      exact ⟨first, member.1, member.2.1, member.2.2, by rw [← formed], by rw [← formed]⟩

/-- A group has the packages of all mentions of its definition, in their order. -/
theorem packages_of_getElem?_ofMentions {type : DefinitionType}
    {mentions : List (TestedPackage × Definition)} {id : DefinitionId} {group : DefinitionGroup}
    (formed : (Groups.ofMentions type mentions)[id]? = some group) :
    group.packages =
      (mentions.filter fun mention => mention.2.type = type ∧ mention.2.id = id).map Prod.fst := by
  rw [← packages_groupOf, ← getElem?_ofMentions, formed]
  rfl

theorem mem_packages_of_getElem?_ofMentions {type : DefinitionType}
    {mentions : List (TestedPackage × Definition)} {id : DefinitionId} {group : DefinitionGroup}
    (formed : (Groups.ofMentions type mentions)[id]? = some group) :
    package ∈ group.packages ↔
      ∃ definition, (package, definition) ∈ mentions ∧ definition.type = type ∧
        definition.id = id := by
  rw [packages_of_getElem?_ofMentions formed]
  simp only [List.mem_map, List.mem_filter, decide_eq_true_iff]
  constructor
  · rintro ⟨⟨_, definition⟩, mention, rfl⟩
    exact ⟨definition, mention⟩
  · rintro ⟨definition, mention⟩
    exact ⟨(package, definition), mention, rfl⟩

/-- There is a group exactly when there is a mention. -/
theorem mem_ofMentions_iff {type : DefinitionType} {mentions : List (TestedPackage × Definition)}
    {id : DefinitionId} :
    id ∈ Groups.ofMentions type mentions ↔
      ∃ mention ∈ mentions, mention.2.type = type ∧ mention.2.id = id := by
  rw [ExtTreeMap.mem_iff_isSome_getElem?, getElem?_ofMentions, isSome_groupOf_iff, ne_eq,
    List.filter_eq_nil_iff]
  simp

/-- A group has taken identifier and root from one mention, and all others agree with it. -/
theorem named_of_getElem?_ofMentions {type : DefinitionType}
    {mentions : List (TestedPackage × Definition)}
    (coherent : ∀ first ∈ mentions, ∀ second ∈ mentions, first.2.id = second.2.id →
      first.2 = second.2)
    {id : DefinitionId} {group : DefinitionGroup}
    (formed : (Groups.ofMentions type mentions)[id]? = some group) {package : TestedPackage}
    {definition : Definition} (member : (package, definition) ∈ mentions)
    (same : definition.id = id) :
    group.definitionId = definition.id ∧ group.criteriaId = definition.criteriaId := by
  obtain ⟨first, memberFirst, -, sameFirst, named, rooted⟩ :=
    exists_mention_of_getElem?_ofMentions formed
  have agree : first.2 = definition :=
    coherent first memberFirst _ member (sameFirst.trans same.symm)
  exact ⟨agree ▸ named, agree ▸ rooted⟩

/-- When mentions of one identifier agree on the definition, what holds for some
package of some group holds for some mention, and the other way round. -/
theorem exists_mem_group_iff {type : DefinitionType} {mentions : List (TestedPackage × Definition)}
    (coherent : ∀ first ∈ mentions, ∀ second ∈ mentions, first.2.id = second.2.id →
      first.2 = second.2) (holds : DefinitionId → CriteriaId → TestedPackage → Prop) :
    (∃ group ∈ (Groups.ofMentions type mentions).values, ∃ package ∈ group.packages,
      holds group.definitionId group.criteriaId package) ↔
    ∃ package definition, (package, definition) ∈ mentions ∧ definition.type = type ∧
      holds definition.id definition.criteriaId package := by
  simp only [mem_values_iff]
  constructor
  · rintro ⟨group, ⟨id, formed⟩, package, member, holding⟩
    obtain ⟨definition, mention, ofType, same⟩ :=
      (mem_packages_of_getElem?_ofMentions formed).1 member
    obtain ⟨named, rooted⟩ := named_of_getElem?_ofMentions coherent formed mention same
    rw [named, rooted] at holding
    exact ⟨package, definition, mention, ofType, holding⟩
  · rintro ⟨package, definition, mention, ofType, holding⟩
    have mentioned : definition.id ∈ Groups.ofMentions type mentions :=
      mem_ofMentions_iff.2 ⟨_, mention, ofType, rfl⟩
    obtain ⟨group, formed⟩ := Option.isSome_iff_exists.1
      (ExtTreeMap.mem_iff_isSome_getElem?.1 mentioned)
    obtain ⟨named, rooted⟩ := named_of_getElem?_ofMentions coherent formed mention rfl
    refine ⟨group, ⟨_, formed⟩, package, ?_, ?_⟩
    · exact (mem_packages_of_getElem?_ofMentions formed).2 ⟨definition, mention, ofType, rfl⟩
    · rw [named, rooted]
      exact holding

end Grouping

/-! ## Which packages are in a group

A definition asks for the packages of a host whose names it lists (`Index.AsksFor`).
Over a built index the groups of one type are those of the candidates of this type
that ask for some package, and a group has exactly the packages that its definition
asks for, each once, in the order of their bytes (`Groups.Exact`).

Groups are filled package by package and not definition by definition, so a group
is what is left of all mentions when those of other definitions are taken out. Two
facts about a built index make this exact. A definition is found under its own
identifier, so all mentions of an identifier agree on the definition. And a name
leads to a definition once, so no package mentions a definition twice
(`pairwise_mentions`).
-/

section Groups

/-! ### What belongs into groups -/

/-- The host has the package, and the definition lists its name. -/
def Index.AsksFor (index : Index) (packages : ExtTreeMap String Nevra) (id : DefinitionId)
    (package : TestedPackage) : Prop :=
  packages[package.package]? = some package.nevra ∧
    index.packageNameId package.nevra.name = some package.nameId ∧
    id ∈ index.packageNameDefinitions package.nameId

/-- The groups are those of the candidates of the type that ask for some package, and
each has the packages that its definition asks for. -/
structure Groups.Exact (groups : Groups) (index : Index) (packages : ExtTreeMap String Nevra)
    (candidates : Candidates) (type : DefinitionType) : Prop where
  mem_iff : ∀ id : DefinitionId, id ∈ groups ↔
    candidates.contains id = true ∧
      (∃ definition, index.definition id = some definition ∧ definition.type = type) ∧
      ∃ package, index.AsksFor packages id package
  named : ∀ (id : DefinitionId) (group : DefinitionGroup), groups[id]? = some group →
    group.definitionId = id ∧
      ∃ definition, index.definition id = some definition ∧
        group.criteriaId = definition.criteriaId
  mem_packages_iff : ∀ (id : DefinitionId) (group : DefinitionGroup), groups[id]? = some group →
    ∀ package, package ∈ group.packages ↔ index.AsksFor packages id package
  /-- In this order no package can be there twice. -/
  ascending : ∀ (id : DefinitionId) (group : DefinitionGroup), groups[id]? = some group →
    group.packages.Pairwise fun first second => utf8Bytes first.package < utf8Bytes second.package

variable {index : Index} {packages : ExtTreeMap String Nevra} {candidates : Candidates}
  {mentioned : List (TestedPackage × DefinitionId)} {details : List (TestedPackage × Definition)}
  {package : TestedPackage} {id : DefinitionId} {definition : Definition} {type : DefinitionType}

/-! ### Mentions over a built index -/

theorem nodup_packageNameDefinitions_of_ofSnapshot {snapshot : Snapshot}
    (built : Index.ofSnapshot snapshot = .ok index) (nameId : NameId) :
    (index.packageNameDefinitions nameId).Nodup := by
  obtain ⟨states, -, rfl⟩ := ofSnapshot_eq_ok_iff.1 built
  rw [packageNameDefinitions_index]
  exact Id.nodup_ascending

/-- A detail is that of the definition which is mentioned by its identifier. -/
theorem mem_detailedMentions_iff_of_keyed (keyed : index.Keyed)
    (detailed : detailedMentions index mentioned = .ok details) :
    (package, definition) ∈ details ↔
      (package, definition.id) ∈ mentioned ∧
        mentionedDefinition index definition.id = .ok definition := by
  rw [mem_detailedMentions_iff detailed]
  constructor
  · rintro ⟨id, member, found⟩
    obtain rfl := keyed id definition (mentionedDefinition_eq_ok_iff.1 found).1
    exact ⟨member, found⟩
  · rintro ⟨member, found⟩
    exact ⟨definition.id, member, found⟩

/-- Packages that mention the same definition come in the order of their strings. -/
theorem pairwise_mentions
    (distinct : ∀ nameId, (index.packageNameDefinitions nameId).Nodup) :
    (mentions index packages candidates).Pairwise fun first second =>
      first.2 = second.2 → compare first.1.package second.1.package = .lt := by
  rw [mentions, List.pairwise_flatMap]
  constructor
  · intro package _
    refine List.pairwise_map.2 (((distinct package.nameId).filter _).imp ?_)
    exact fun differ same => absurd same differ
  · refine (pairwise_testedPackages index packages).imp ?_
    intro first second less mention member other memberOther _
    obtain ⟨_, -, rfl⟩ := List.mem_map.1 member
    obtain ⟨_, -, rfl⟩ := List.mem_map.1 memberOther
    exact less

/-- Looking up the definitions keeps this order. -/
theorem pairwise_detailedMentions (keyed : index.Keyed)
    (distinct : ∀ nameId, (index.packageNameDefinitions nameId).Nodup)
    (detailed : detailedMentions index (mentions index packages candidates) = .ok details) :
    details.Pairwise fun first second =>
      first.2.id = second.2.id → compare first.1.package second.1.package = .lt := by
  refine pairwise_of_mapM_eq_ok detailed ?_ (pairwise_mentions distinct)
  intro first second detail other found foundOther ordered same
  obtain ⟨package, found⟩ := detail_eq_ok_iff.1 found
  obtain ⟨packageOther, foundOther⟩ := detail_eq_ok_iff.1 foundOther
  rw [← package, ← packageOther]
  apply ordered
  rw [← keyed _ _ (mentionedDefinition_eq_ok_iff.1 found).1, same]
  exact keyed _ _ (mentionedDefinition_eq_ok_iff.1 foundOther).1

/-- A definition of a type with a meaning is detailed for each package that it asks
for, if it is a candidate. -/
theorem exists_mem_detailedMentions_iff (keyed : index.Keyed)
    (detailed : detailedMentions index (mentions index packages candidates) = .ok details)
    (meaningful : type = .patch ∨ type = .vulnerability) :
    (∃ definition, (package, definition) ∈ details ∧ definition.type = type ∧
        definition.id = id) ↔
      candidates.contains id = true ∧
        (∃ definition, index.definition id = some definition ∧ definition.type = type) ∧
        index.AsksFor packages id package := by
  simp only [mem_detailedMentions_iff_of_keyed keyed detailed, mentionedDefinition_eq_ok_iff,
    mem_mentions_iff, mem_testedPackages_iff, Index.AsksFor]
  constructor
  · rintro ⟨definition, ⟨⟨⟨present, known⟩, listed, candidate⟩, found, -⟩, ofType, rfl⟩
    exact ⟨candidate, ⟨definition, found, ofType⟩, present, known, listed⟩
  · rintro ⟨candidate, ⟨definition, found, rfl⟩, present, known, listed⟩
    obtain rfl := keyed id definition found
    exact ⟨definition, ⟨⟨⟨present, known⟩, listed, candidate⟩, found, meaningful⟩, rfl, rfl⟩

/-! ### Groups of one type -/

/-- **The groups of one type are exact.** That a group is there says of its definition
that it is a candidate of the type. -/
theorem exact_ofMentions (keyed : index.Keyed)
    (distinct : ∀ nameId, (index.packageNameDefinitions nameId).Nodup)
    (detailed : detailedMentions index (mentions index packages candidates) = .ok details)
    (meaningful : type = .patch ∨ type = .vulnerability) :
    Groups.Exact (Groups.ofMentions type details) index packages candidates type where
  mem_iff := by
    intro id
    simp only [mem_ofMentions_iff, Prod.exists,
      exists_mem_detailedMentions_iff keyed detailed meaningful, exists_and_left]
  named := by
    intro id group formed
    obtain ⟨⟨package, definition⟩, member, -, same, named, rooted⟩ :=
      exists_mention_of_getElem?_ofMentions formed
    have found := ((mem_detailedMentions_iff_of_keyed keyed detailed).1 member).2
    exact ⟨named.trans same, definition, same ▸ (mentionedDefinition_eq_ok_iff.1 found).1, rooted⟩
  mem_packages_iff := by
    intro id group formed package
    rw [mem_packages_of_getElem?_ofMentions formed,
      exists_mem_detailedMentions_iff keyed detailed meaningful]
    constructor
    · exact fun ⟨_, _, asked⟩ => asked
    · intro asked
      obtain ⟨⟨package, definition⟩, member, ofType, same, -⟩ :=
        exists_mention_of_getElem?_ofMentions formed
      obtain ⟨candidate, found, -⟩ := (exists_mem_detailedMentions_iff keyed detailed
        meaningful).1 ⟨definition, member, ofType, same⟩
      exact ⟨candidate, found, asked⟩
  ascending := by
    intro id group formed
    rw [packages_of_getElem?_ofMentions formed, List.pairwise_map]
    refine ((pairwise_detailedMentions keyed distinct detailed).filter _).imp_of_mem ?_
    intro first second member memberSecond ordered
    have same := (of_decide_eq_true (List.mem_filter.1 member).2).2
    have sameSecond := (of_decide_eq_true (List.mem_filter.1 memberSecond).2).2
    exact compare_eq_lt_iff_utf8Bytes_lt.1 (ordered (same.trans sameSecond.symm))

/-! ### The groups of a host -/

theorem ofPackages_eq_ok_iff {unfixed : Bool} {grouping : Grouping} :
    Grouping.ofPackages index packages candidates unfixed = .ok grouping ↔
      ∃ details, detailedMentions index (mentions index packages candidates) = .ok details ∧
        grouping.patches = Groups.ofMentions .patch details ∧
        grouping.vulnerabilities =
          if unfixed then Groups.ofMentions .vulnerability details else ∅ := by
  obtain ⟨patches, vulnerabilities⟩ := grouping
  unfold Grouping.ofPackages
  cases detailedMentions index (mentions index packages candidates) with
  | error cause => simp [Except.map]
  | ok details => simp [Except.map, eq_comm]

/-- A definition has one type, so it has no group of both types. -/
theorem Groups.Exact.not_mem_both {patches vulnerabilities : Groups}
    (exactPatches : Groups.Exact patches index packages candidates .patch)
    (exactVulnerabilities :
      Groups.Exact vulnerabilities index packages candidates .vulnerability) (id : DefinitionId) :
    ¬(id ∈ patches ∧ id ∈ vulnerabilities) := by
  rintro ⟨asPatch, asVulnerability⟩
  obtain ⟨-, ⟨_, found, patch⟩, -⟩ := (exactPatches.mem_iff id).1 asPatch
  obtain ⟨-, ⟨_, foundAgain, vulnerability⟩, -⟩ :=
    (exactVulnerabilities.mem_iff id).1 asVulnerability
  obtain rfl := Option.some.inj (found.symm.trans foundAgain)
  exact absurd (patch.symm.trans vulnerability) (by decide)

/-- **Packages are grouped exactly.** The groups of patches are exact, so are those of
vulnerabilities when they are wanted, and no definition has a group of both kinds. -/
theorem exact_of_ofPackages {snapshot : Snapshot} {unfixed : Bool} {grouping : Grouping}
    (built : Index.ofSnapshot snapshot = .ok index)
    (grouped : Grouping.ofPackages index packages candidates unfixed = .ok grouping) :
    Groups.Exact grouping.patches index packages candidates .patch ∧
      (unfixed = true →
        Groups.Exact grouping.vulnerabilities index packages candidates .vulnerability) ∧
      (unfixed = false → grouping.vulnerabilities = ∅) ∧
      ∀ id, ¬(id ∈ grouping.patches ∧ id ∈ grouping.vulnerabilities) := by
  have keyed := keyed_of_ofSnapshot built
  have distinct := nodup_packageNameDefinitions_of_ofSnapshot built
  obtain ⟨details, detailed, patches, vulnerabilities⟩ := ofPackages_eq_ok_iff.1 grouped
  have exactPatches : Groups.Exact grouping.patches index packages candidates .patch :=
    patches ▸ exact_ofMentions keyed distinct detailed (.inl rfl)
  cases unfixed with
  | false =>
      have none : grouping.vulnerabilities = ∅ := vulnerabilities
      refine ⟨exactPatches, nofun, fun _ => none, ?_⟩
      rintro id ⟨-, member⟩
      exact ExtTreeMap.not_mem_empty (none ▸ member)
  | true =>
      have exactVulnerabilities :
          Groups.Exact grouping.vulnerabilities index packages candidates .vulnerability :=
        (vulnerabilities.trans (if_pos rfl)) ▸
          exact_ofMentions keyed distinct detailed (.inr rfl)
      exact ⟨exactPatches, fun _ => exactVulnerabilities, nofun,
        exactPatches.not_mem_both exactVulnerabilities⟩

/-- A feed with a patch that lists one name twice, a vulnerability that lists two names
and a patch that no platform has. -/
def sharedNamesFeed : Snapshot :=
  { Snapshot.empty .epoch with
    packageNames := [⟨⟨1⟩, "bash"⟩, ⟨⟨2⟩, "curl"⟩]
    definitions :=
      [⟨⟨⟨3⟩, .patch, ⟨9⟩⟩, [], [], [⟨2⟩]⟩,
        ⟨⟨⟨2⟩, .vulnerability, ⟨8⟩⟩, [], [], [⟨2⟩, ⟨1⟩]⟩,
        ⟨⟨⟨1⟩, .patch, ⟨7⟩⟩, [], [], [⟨1⟩, ⟨1⟩]⟩] }

/-- The index of that feed. -/
def sharedNamesIndex : Index :=
  (Tables.ofSnapshot sharedNamesFeed []).index

/-- A package of the name that both candidates list. -/
def testedBash (version : String) : TestedPackage :=
  ⟨"bash-" ++ version ++ "-1.x86_64", ⟨1⟩, ⟨"bash", 0, version, "1", "x86_64"⟩⟩

/-- A package of the name that only the vulnerability lists. -/
def testedCurl : TestedPackage :=
  ⟨"curl-8.6-1.x86_64", ⟨2⟩, ⟨"curl", 0, "8.6", "1", "x86_64"⟩⟩

/-- Two packages of one name, a package of another one and a package whose name is
not known. -/
def sharedNamesPackages : ExtTreeMap String Nevra :=
  [testedBash "5.2", testedCurl, testedBash "5.1"].foldr
    (fun tested packages => packages.insert tested.package tested.nevra)
    (ExtTreeMap.insert ∅ "vim-9.0-1.x86_64" ⟨"vim", 0, "9.0", "1", "x86_64"⟩)

/-- The groups of the two candidates. -/
def sharedNamesGrouping : Grouping where
  patches := ExtTreeMap.insert ∅ ⟨1⟩ ⟨⟨1⟩, ⟨7⟩, [testedBash "5.1", testedBash "5.2"]⟩
  vulnerabilities :=
    ExtTreeMap.insert ∅ ⟨2⟩ ⟨⟨2⟩, ⟨8⟩, [testedBash "5.1", testedBash "5.2", testedCurl]⟩

/-- Both packages of the shared name are in the group of the patch, once each, and the
group of the vulnerability has them and the package of the other name. -/
theorem exact_sharedNamesGrouping :
    Index.ofSnapshot sharedNamesFeed = .ok sharedNamesIndex ∧
    Grouping.ofPackages sharedNamesIndex sharedNamesPackages (.ofList [⟨1⟩, ⟨2⟩]) true =
      .ok sharedNamesGrouping ∧
    Groups.Exact sharedNamesGrouping.patches sharedNamesIndex sharedNamesPackages
      (.ofList [⟨1⟩, ⟨2⟩]) .patch ∧
    Groups.Exact sharedNamesGrouping.vulnerabilities sharedNamesIndex sharedNamesPackages
      (.ofList [⟨1⟩, ⟨2⟩]) .vulnerability := by
  have built : Index.ofSnapshot sharedNamesFeed = .ok sharedNamesIndex := rfl
  have grouped : Grouping.ofPackages sharedNamesIndex sharedNamesPackages
      (.ofList [⟨1⟩, ⟨2⟩]) true = .ok sharedNamesGrouping := rfl
  obtain ⟨patches, vulnerabilities, -, -⟩ := exact_of_ofPackages built grouped
  exact ⟨built, grouped, patches, vulnerabilities rfl⟩

end Groups

end CveTriage
