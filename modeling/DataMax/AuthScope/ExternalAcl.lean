import DataMax.Library.FirstMatch

/-! Which external principals may read an external document, by the access control list that its
source gave for it. -/

namespace DataMax.AuthScope

open Library

structure ScopeDecision where
  allowed : Bool
  reason : String
  deriving DecidableEq

inductive ExternalPrincipalTrustLevel where
  | unresolved
  | guest
  | externalUser
  | employee
  | manager
  | admin
  | systemOperator
  deriving DecidableEq

structure ExternalPrincipalContext where
  externalUserId : String
  externalDepartmentIds : List String
  externalGroupIds : List String
  externalRoleIds : List String
  trustLevel : ExternalPrincipalTrustLevel
  isDisabled : Bool

structure ExternalDocumentAclSnapshot where
  allowedUserExternalIds : List String
  allowedDepartmentExternalIds : List String
  allowedGroupExternalIds : List String
  allowedRoleExternalIds : List String
  deniedUserExternalIds : List String
  deniedDepartmentExternalIds : List String
  deniedGroupExternalIds : List String
  deniedRoleExternalIds : List String

def intersects (left right : List String) : Bool := left.any fun item => right.contains item

def canAccessExternalDocument (principal : ExternalPrincipalContext) (acl : ExternalDocumentAclSnapshot) :
    ScopeDecision :=
  if principal.isDisabled then ⟨false, "external principal disabled"⟩
  else if principal.trustLevel = .unresolved then ⟨false, "external principal unresolved"⟩
  else if acl.deniedUserExternalIds.contains principal.externalUserId then ⟨false, "external source acl denied user"⟩
  else if intersects principal.externalDepartmentIds acl.deniedDepartmentExternalIds then
    ⟨false, "external source acl denied department"⟩
  else if intersects principal.externalGroupIds acl.deniedGroupExternalIds then
    ⟨false, "external source acl denied group"⟩
  else if intersects principal.externalRoleIds acl.deniedRoleExternalIds then
    ⟨false, "external source acl denied role"⟩
  else if acl.allowedUserExternalIds.contains principal.externalUserId then ⟨true, "external source acl allowed user"⟩
  else if intersects principal.externalDepartmentIds acl.allowedDepartmentExternalIds then
    ⟨true, "external source acl allowed department"⟩
  else if intersects principal.externalGroupIds acl.allowedGroupExternalIds then
    ⟨true, "external source acl allowed group"⟩
  else if intersects principal.externalRoleIds acl.allowedRoleExternalIds then
    ⟨true, "external source acl allowed role"⟩
  else ⟨false, "external source acl no matching allow"⟩

section Memberships

/-- What an entry of the list can name. -/
inductive Membership where
  | user
  | department
  | group
  | role

namespace Membership

def all : List Membership := [user, department, group, role]

def label : Membership → String
  | user => "user"
  | department => "department"
  | group => "group"
  | role => "role"

theorem mem_all (kind : Membership) : kind ∈ all := by
  cases kind <;> simp [all]

end Membership

def ExternalPrincipalContext.ids (principal : ExternalPrincipalContext) : Membership → List String
  | .user => [principal.externalUserId]
  | .department => principal.externalDepartmentIds
  | .group => principal.externalGroupIds
  | .role => principal.externalRoleIds

def ExternalDocumentAclSnapshot.allowed (acl : ExternalDocumentAclSnapshot) : Membership → List String
  | .user => acl.allowedUserExternalIds
  | .department => acl.allowedDepartmentExternalIds
  | .group => acl.allowedGroupExternalIds
  | .role => acl.allowedRoleExternalIds

def ExternalDocumentAclSnapshot.denied (acl : ExternalDocumentAclSnapshot) : Membership → List String
  | .user => acl.deniedUserExternalIds
  | .department => acl.deniedDepartmentExternalIds
  | .group => acl.deniedGroupExternalIds
  | .role => acl.deniedRoleExternalIds

variable (principal other : ExternalPrincipalContext) (acl similar : ExternalDocumentAclSnapshot)

/-- Enabled and known. -/
def IsResolved : Prop := principal.isDisabled = false ∧ principal.trustLevel ≠ .unresolved

def IsDenied : Prop := ∃ kind, ∃ id ∈ principal.ids kind, id ∈ acl.denied kind

def IsAllowed : Prop := ∃ kind, ∃ id ∈ principal.ids kind, id ∈ acl.allowed kind

/-- The same principal, with its memberships in any order and number. -/
structure SamePrincipal : Prop where
  enabled : principal.isDisabled = other.isDisabled
  level : principal.trustLevel = other.trustLevel
  ids : ∀ kind id, id ∈ principal.ids kind ↔ id ∈ other.ids kind

structure SameAcl : Prop where
  allowed : ∀ kind id, id ∈ acl.allowed kind ↔ id ∈ similar.allowed kind
  denied : ∀ kind id, id ∈ acl.denied kind ↔ id ∈ similar.denied kind

/-- The refusals in their order. -/
def refusals : List (Bool × ScopeDecision) :=
  [(principal.isDisabled, ⟨false, "external principal disabled"⟩),
    (decide (principal.trustLevel = .unresolved), ⟨false, "external principal unresolved"⟩)] ++
    Membership.all.map fun kind =>
      (intersects (principal.ids kind) (acl.denied kind), ⟨false, "external source acl denied " ++ kind.label⟩)

def permissions : List (Bool × ScopeDecision) := Membership.all.map fun kind =>
  (intersects (principal.ids kind) (acl.allowed kind), ⟨true, "external source acl allowed " ++ kind.label⟩)

attribute [local simp] refusals permissions in
theorem canAccess_firstMatch : canAccessExternalDocument principal acl =
    firstMatch (refusals principal acl ++ permissions principal acl) ⟨false, "external source acl no matching allow"⟩ := by
  have user : ∀ ids : List String, ids.contains principal.externalUserId = intersects [principal.externalUserId] ids := by
    intro ids
    simp [intersects]
  rw [canAccessExternalDocument, user, user]
  simp [Membership.all, Membership.label, firstMatch, ExternalPrincipalContext.ids,
    ExternalDocumentAclSnapshot.allowed, ExternalDocumentAclSnapshot.denied]

variable {principal other acl similar}

theorem intersects_iff {left right : List String} : intersects left right = true ↔ ∃ item ∈ left, item ∈ right := by
  simp [intersects]

theorem intersects_congr {left right others more : List String} (same : ∀ item, item ∈ left ↔ item ∈ others)
    (also : ∀ item, item ∈ right ↔ item ∈ more) : intersects left right = intersects others more := by
  rw [Bool.eq_iff_iff, intersects_iff, intersects_iff]
  simp only [same, also]

theorem refusals_fail_iff : (∀ rule ∈ refusals principal acl, rule.1 = false) ↔
    IsResolved principal ∧ ¬ IsDenied principal acl := by
  have denials : (∀ kind, intersects (principal.ids kind) (acl.denied kind) = false) ↔ ¬ IsDenied principal acl := by
    rw [IsDenied, not_exists]
    exact forall_congr' fun kind => by rw [← intersects_iff, Bool.not_eq_true]
  rw [← denials, refusals, IsResolved, List.forall_mem_append, List.forall_mem_map, List.forall_mem_cons,
    List.forall_mem_singleton, decide_eq_false_iff_not]
  exact and_congr_right fun _ => ⟨fun each kind => each kind kind.mem_all, fun each kind _ => each kind⟩

theorem permission_holds_iff : (∃ rule ∈ permissions principal acl, rule.1 = true) ↔ IsAllowed principal acl := by
  constructor
  · rintro ⟨rule, listed, holds⟩
    obtain ⟨kind, -, rfl⟩ := List.mem_map.mp listed
    exact ⟨kind, intersects_iff.mp holds⟩
  · rintro ⟨kind, shared⟩
    exact ⟨_, List.mem_map_of_mem kind.mem_all, intersects_iff.mpr shared⟩

theorem allowed_iff : (canAccessExternalDocument principal acl).allowed = true ↔
    IsResolved principal ∧ ¬ IsDenied principal acl ∧ IsAllowed principal acl := by
  have refused : ∀ rule ∈ refusals principal acl, ¬ rule.2.allowed = true := by simp [refusals, Membership.all]
  have permitted : ∀ rule ∈ permissions principal acl, rule.2.allowed = true := by simp [permissions, Membership.all]
  have decided := @good_firstMatch_iff _ _ _ ⟨false, "external source acl no matching allow"⟩
    (fun decision : ScopeDecision => decision.allowed = true) refused permitted Bool.false_ne_true
  rw [canAccess_firstMatch, decided, refusals_fail_iff, permission_holds_iff, and_assoc]

theorem canAccess_congr (same : SamePrincipal principal other) (also : SameAcl acl similar) :
    canAccessExternalDocument principal acl = canAccessExternalDocument other similar := by
  have denials := fun kind => intersects_congr (same.ids kind) (also.denied kind)
  have allowances := fun kind => intersects_congr (same.ids kind) (also.allowed kind)
  rw [canAccess_firstMatch, canAccess_firstMatch, refusals, refusals, permissions, permissions, same.enabled, same.level]
  simp only [denials, allowances]

/-- A document is readable for those that are known, not denied and allowed. Denials override, and
the lists are sets. -/
theorem external_acl_denies_override (principal : ExternalPrincipalContext) (acl : ExternalDocumentAclSnapshot) :
    ((canAccessExternalDocument principal acl).allowed = true ↔
      IsResolved principal ∧ ¬ IsDenied principal acl ∧ IsAllowed principal acl) ∧
      (∀ stricter : ExternalDocumentAclSnapshot, (∀ kind, acl.denied kind ⊆ stricter.denied kind) →
        (∀ kind, stricter.allowed kind ⊆ acl.allowed kind) →
        (canAccessExternalDocument principal acl).allowed = false →
        (canAccessExternalDocument principal stricter).allowed = false) ∧
      (∀ wider : ExternalDocumentAclSnapshot, (∀ kind, acl.denied kind ⊆ wider.denied kind) →
        IsDenied principal acl → (canAccessExternalDocument principal wider).allowed = false) ∧
      ∀ other similar, SamePrincipal principal other → SameAcl acl similar →
        canAccessExternalDocument principal acl = canAccessExternalDocument other similar := by
  have denied_mono : ∀ larger : ExternalDocumentAclSnapshot, (∀ kind, acl.denied kind ⊆ larger.denied kind) →
      IsDenied principal acl → IsDenied principal larger := by
    rintro larger more ⟨kind, id, own, listed⟩
    exact ⟨kind, id, own, more kind listed⟩
  refine ⟨allowed_iff, ?_, ?_, fun other similar => canAccess_congr⟩
  · intro stricter more fewer refused
    rw [← Bool.not_eq_true] at refused ⊢
    intro permitted
    obtain ⟨resolved, undenied, kind, id, own, listed⟩ := allowed_iff.mp permitted
    exact refused (allowed_iff.mpr
      ⟨resolved, fun denied => undenied (denied_mono stricter more denied), kind, id, own, fewer kind listed⟩)
  · intro wider more denied
    rw [← Bool.not_eq_true]
    intro permitted
    exact (allowed_iff.mp permitted).2.1 (denied_mono wider more denied)

end Memberships

end DataMax.AuthScope
