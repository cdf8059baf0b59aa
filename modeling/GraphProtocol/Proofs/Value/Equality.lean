import GraphProtocol.Proofs.Value.Agreement
import GraphProtocol.Proofs.Value.Nesting

/-!
# Equality of values as a relation

One level of a value is compared with one level of another, and the values inside by whatever
relation there is between them. Where that is equality again, and keys are distinct, equality of
values is symmetric and transitive, and it does not see the order of entries. Only what holds a
not-a-number is not equal to itself.
-/

set_option autoImplicit false

namespace GraphProtocol

/-! ## Numbers and instants -/

namespace Binary64

variable {x y z : Binary64}

theorem sameNumber_iff : x.sameNumber y = true ↔ x.isNaN = false ∧ y.isNaN = false ∧
    (x.bits = y.bits ∨ x.isZero = true ∧ y.isZero = true) := by
  simp [sameNumber, and_assoc]

theorem sameNumber_self : x.sameNumber x = true ↔ x.isNaN = false := by
  rw [sameNumber_iff]
  constructor
  · exact fun same => same.1
  · exact fun number => ⟨number, number, .inl rfl⟩

theorem sameNumber_symm (same : x.sameNumber y = true) : y.sameNumber x = true := by
  obtain ⟨number, number', same⟩ := sameNumber_iff.mp same
  exact sameNumber_iff.mpr ⟨number', number, same.imp Eq.symm And.symm⟩

theorem sameNumber_trans (same : x.sameNumber y = true) (next : y.sameNumber z = true) :
    x.sameNumber z = true := by
  obtain ⟨number, -, same⟩ := sameNumber_iff.mp same
  obtain ⟨-, number', next⟩ := sameNumber_iff.mp next
  refine sameNumber_iff.mpr ⟨number, number', ?_⟩
  have zero (bits : x.bits = y.bits) : x.isZero = y.isZero := by
    unfold isZero word
    rw [bits]
  have zero' (bits : y.bits = z.bits) : y.isZero = z.isZero := by
    unfold isZero word
    rw [bits]
  rcases same with bits | ⟨zeroX, zeroY⟩
  · rcases next with bits' | ⟨zeroY, zeroZ⟩
    · exact .inl (bits.trans bits')
    · exact .inr ⟨(zero bits).trans zeroY, zeroZ⟩
  · rcases next with bits' | ⟨-, zeroZ⟩
    · exact .inr ⟨zeroX, (zero' bits').symm.trans zeroY⟩
    · exact .inr ⟨zeroX, zeroZ⟩

end Binary64

namespace Calendar.DateTime

variable {t u s : Calendar.DateTime}

theorem sameInstant_eq : t.sameInstant u = true ↔ t.utc = u.utc := beq_iff_eq

theorem sameInstant_iff : t.sameInstant u = true ↔
    t.utc.second = u.utc.second ∧ t.utc.nanos = u.utc.nanos := by
  rw [sameInstant_eq, Calendar.LocalDateTime.mk.injEq]

theorem sameInstant_self : t.sameInstant t = true := sameInstant_eq.mpr rfl

theorem sameInstant_symm (same : t.sameInstant u = true) : u.sameInstant t = true :=
  sameInstant_eq.mpr (sameInstant_eq.mp same).symm

theorem sameInstant_trans (same : t.sameInstant u = true) (next : u.sameInstant s = true) :
    t.sameInstant s = true :=
  sameInstant_eq.mpr ((sameInstant_eq.mp same).trans (sameInstant_eq.mp next))

/-- The local clock is ahead of Greenwich by the offset. -/
theorem wall_given {wall : Calendar.LocalDateTime} (shown : t.wall? = some wall) :
    t.utc.second = wall.second - t.offset.seconds ∧ t.utc.nanos = wall.nanos := by
  obtain ⟨second, nanos⟩ := wall?_eq_some.mp shown
  exact ⟨by omega, nanos.symm⟩

end Calendar.DateTime

namespace Value

theorem samePoint2D_iff {p q : Point2D} : samePoint2D p q = true ↔
    p.srid = q.srid ∧ p.x.sameNumber q.x = true ∧ p.y.sameNumber q.y = true := by
  simp [samePoint2D, and_assoc]

theorem samePoint2D_symm {p q : Point2D} (same : samePoint2D p q = true) :
    samePoint2D q p = true := by
  obtain ⟨srid, x, y⟩ := samePoint2D_iff.mp same
  exact samePoint2D_iff.mpr ⟨srid.symm, Binary64.sameNumber_symm x, Binary64.sameNumber_symm y⟩

theorem samePoint2D_trans {p q r : Point2D} (same : samePoint2D p q = true)
    (next : samePoint2D q r = true) : samePoint2D p r = true := by
  obtain ⟨srid, x, y⟩ := samePoint2D_iff.mp same
  obtain ⟨srid', x', y'⟩ := samePoint2D_iff.mp next
  exact samePoint2D_iff.mpr ⟨srid.trans srid', Binary64.sameNumber_trans x x',
    Binary64.sameNumber_trans y y'⟩

theorem samePoint3D_iff {p q : Point3D} : samePoint3D p q = true ↔ p.srid = q.srid ∧
    p.x.sameNumber q.x = true ∧ p.y.sameNumber q.y = true ∧ p.z.sameNumber q.z = true := by
  simp [samePoint3D, and_assoc]

theorem samePoint3D_symm {p q : Point3D} (same : samePoint3D p q = true) :
    samePoint3D q p = true := by
  obtain ⟨srid, x, y, z⟩ := samePoint3D_iff.mp same
  exact samePoint3D_iff.mpr ⟨srid.symm, Binary64.sameNumber_symm x, Binary64.sameNumber_symm y,
    Binary64.sameNumber_symm z⟩

theorem samePoint3D_trans {p q r : Point3D} (same : samePoint3D p q = true)
    (next : samePoint3D q r = true) : samePoint3D p r = true := by
  obtain ⟨srid, x, y, z⟩ := samePoint3D_iff.mp same
  obtain ⟨srid', x', y', z'⟩ := samePoint3D_iff.mp next
  exact samePoint3D_iff.mpr ⟨srid.trans srid', Binary64.sameNumber_trans x x',
    Binary64.sameNumber_trans y y', Binary64.sameNumber_trans z z'⟩

end Value

namespace Value

/-! ## One level of a value -/

section Parts

variable {p : Path Value} {n : Node Value} {r : UnboundRelationship Value} {x : Value}

theorem path_children : x ∈ (path p).children ↔
    (∃ n ∈ p.nodes, x ∈ n.properties.values) ∨ ∃ r ∈ p.relationships, x ∈ r.properties.values := by
  simp [children]

theorem own_dict {d : Dict Value} : d ∈ [d] := List.mem_cons_self

theorem node_dict (among : n ∈ p.nodes) : n.properties ∈ (path p).dicts :=
  List.mem_append_left _ (List.mem_map_of_mem among)

theorem unbound_dict (among : r ∈ p.relationships) : r.properties ∈ (path p).dicts :=
  List.mem_append_right _ (List.mem_map_of_mem among)

end Parts

section Alike

variable {R S : Value → Value → Prop}

structure EntityAlike {σ κ : Type} (head : σ → κ) (properties : σ → Dict Value)
    (R : Value → Value → Prop) (n m : σ) : Prop where
  head : head n = head m
  properties : (properties n).Agrees R (properties m)

def NodeAlike : (Value → Value → Prop) → Node Value → Node Value → Prop :=
  EntityAlike (fun n => (n.id, n.labels)) Node.properties

def RelationshipAlike :
    (Value → Value → Prop) → Relationship Value → Relationship Value → Prop :=
  EntityAlike (fun r => (r.id, r.startNode, r.endNode, r.type)) Relationship.properties

def UnboundAlike :
    (Value → Value → Prop) → UnboundRelationship Value → UnboundRelationship Value → Prop :=
  EntityAlike (fun r => (r.id, r.type)) UnboundRelationship.properties

section Entities

variable {σ κ : Type} {head : σ → κ} {properties : σ → Dict Value} {n m k : σ}

theorem entity_imp (alike : EntityAlike head properties R n m)
    (imp : ∀ x ∈ (properties n).values, ∀ y ∈ (properties m).values, R x y → S x y) :
    EntityAlike head properties S n m := ⟨alike.head, Dict.agrees_imp alike.properties imp⟩

theorem entity_flip (alike : EntityAlike head properties R n m) :
    EntityAlike head properties (flip R) m n :=
  ⟨alike.head.symm, Dict.agrees_flip alike.properties⟩

theorem entity_trans (first : EntityAlike head properties R n m)
    (second : EntityAlike head properties S m k) :
    EntityAlike head properties (fun x z => ∃ y ∈ (properties m).values, R x y ∧ S y z) n k :=
  ⟨first.head.trans second.head, Dict.agrees_trans first.properties second.properties⟩

theorem entity_self (distinct : (properties n).DistinctKeys) :
    EntityAlike head properties R n n ↔ ∀ x ∈ (properties n).values, R x x := by
  rw [← Dict.agrees_self distinct]
  exact ⟨EntityAlike.properties, fun agrees => ⟨rfl, agrees⟩⟩

end Entities

def isPlain : Value → Bool
  | null | boolean _ | integer _ | string _ | bytes _ | date _ | time _ | localTime _
  | localDateTime _ | zonedDateTime _ | duration _ => true
  | _ => false

/-- Values that are equal but for the values inside them, which are related. -/
inductive Alike (R : Value → Value → Prop) : Value → Value → Prop
  | plain {v : Value} : v.isPlain = true → Alike R v v
  | float {x y : Binary64} : x.sameNumber y = true → Alike R (float x) (float y)
  | point2D {p q : Point2D} : samePoint2D p q = true → Alike R (point2D p) (point2D q)
  | point3D {p q : Point3D} : samePoint3D p q = true → Alike R (point3D p) (point3D q)
  | dateTime {t u : Calendar.DateTime} : t.sameInstant u = true →
    Alike R (dateTime t) (dateTime u)
  | list {xs ys : List Value} : List.Forall₂ R xs ys → Alike R (list xs) (list ys)
  | map {a b : Dict Value} : a.Agrees R b → Alike R (map a) (map b)
  | node {n m : Node Value} : NodeAlike R n m → Alike R (node n) (node m)
  | relationship {r s : Relationship Value} : RelationshipAlike R r s →
    Alike R (relationship r) (relationship s)
  | unboundRelationship {r s : UnboundRelationship Value} : UnboundAlike R r s →
    Alike R (unboundRelationship r) (unboundRelationship s)
  | path {p q : Path Value} : List.Forall₂ (NodeAlike R) p.nodes q.nodes →
    List.Forall₂ (UnboundAlike R) p.relationships q.relationships → p.indices = q.indices →
    Alike R (path p) (path q)

variable {u v w : Value}

theorem alike_imp (alike : Alike R v w)
    (imp : ∀ x ∈ v.children, ∀ y ∈ w.children, R x y → S x y) : Alike S v w := by
  cases alike with
  | plain is => exact .plain is
  | float given => exact .float given
  | point2D given => exact .point2D given
  | point3D given => exact .point3D given
  | dateTime given => exact .dateTime given
  | list items => exact .list (forall₂_imp items imp)
  | map agrees => exact .map (Dict.agrees_imp agrees imp)
  | node alike => exact .node (entity_imp alike imp)
  | relationship alike => exact .relationship (entity_imp alike imp)
  | unboundRelationship alike => exact .unboundRelationship (entity_imp alike imp)
  | path nodes relationships indices =>
    refine .path (forall₂_imp nodes ?_) (forall₂_imp relationships ?_) indices
    · intro n among m among' alike
      refine entity_imp alike fun x held y held' => ?_
      exact imp x (path_children.mpr (.inl ⟨n, among, held⟩)) y
        (path_children.mpr (.inl ⟨m, among', held'⟩))
    · intro r among s among' alike
      refine entity_imp alike fun x held y held' => ?_
      exact imp x (path_children.mpr (.inr ⟨r, among, held⟩)) y
        (path_children.mpr (.inr ⟨s, among', held'⟩))

theorem alike_flip (alike : Alike R v w) : Alike (flip R) w v := by
  cases alike with
  | plain is => exact .plain is
  | float given => exact .float (Binary64.sameNumber_symm given)
  | point2D given => exact .point2D (samePoint2D_symm given)
  | point3D given => exact .point3D (samePoint3D_symm given)
  | dateTime given => exact .dateTime (Calendar.DateTime.sameInstant_symm given)
  | list items => exact .list items.flip
  | map agrees => exact .map (Dict.agrees_flip agrees)
  | node alike => exact .node (entity_flip alike)
  | relationship alike => exact .relationship (entity_flip alike)
  | unboundRelationship alike => exact .unboundRelationship (entity_flip alike)
  | path nodes relationships indices =>
    exact .path (nodes.imp fun _ _ => entity_flip).flip
      (relationships.imp fun _ _ => entity_flip).flip indices.symm

theorem alike_trans (first : Alike R u v) (second : Alike S v w) :
    Alike (fun x z => ∃ y ∈ v.children, R x y ∧ S y z) u w := by
  cases first with
  | plain is =>
    cases second with
    | plain => exact .plain is
    | _ => cases is
  | float given =>
    cases second with
    | plain is => cases is
    | float given' => exact .float (Binary64.sameNumber_trans given given')
  | point2D given =>
    cases second with
    | plain is => cases is
    | point2D given' => exact .point2D (samePoint2D_trans given given')
  | point3D given =>
    cases second with
    | plain is => cases is
    | point3D given' => exact .point3D (samePoint3D_trans given given')
  | dateTime given =>
    cases second with
    | plain is => cases is
    | dateTime given' => exact .dateTime (Calendar.DateTime.sameInstant_trans given given')
  | list items =>
    cases second with
    | plain is => cases is
    | list items' => exact .list (forall₂_trans items items')
  | map agrees =>
    cases second with
    | plain is => cases is
    | map agrees' => exact .map (Dict.agrees_trans agrees agrees')
  | node alike =>
    cases second with
    | plain is => cases is
    | node alike' => exact .node (entity_trans alike alike')
  | relationship alike =>
    cases second with
    | plain is => cases is
    | relationship alike' => exact .relationship (entity_trans alike alike')
  | unboundRelationship alike =>
    cases second with
    | plain is => cases is
    | unboundRelationship alike' => exact .unboundRelationship (entity_trans alike alike')
  | path nodes relationships indices =>
    cases second with
    | plain is => cases is
    | path nodes' relationships' indices' =>
      refine .path ((forall₂_trans nodes nodes').imp ?_)
        ((forall₂_trans relationships relationships').imp ?_) (indices.trans indices')
      · rintro n k ⟨m, among, alike, alike'⟩
        refine entity_imp (entity_trans alike alike') ?_
        rintro x _ z _ ⟨y, held, related⟩
        exact ⟨y, path_children.mpr (.inl ⟨m, among, held⟩), related⟩
      · rintro q s ⟨r, among, alike, alike'⟩
        refine entity_imp (entity_trans alike alike') ?_
        rintro x _ z _ ⟨y, held, related⟩
        exact ⟨y, path_children.mpr (.inr ⟨r, among, held⟩), related⟩

/-- The numbers with a fraction that stand in the value itself. -/
def numbers : Value → List Binary64
  | float x => [x]
  | point2D p => [p.x, p.y]
  | point3D p => [p.x, p.y, p.z]
  | _ => []

theorem plain_bare (plain : v.isPlain = true) : v.numbers = [] ∧ v.children = [] := by
  cases v with
  | null | boolean | integer | string | bytes | date | time | localTime | localDateTime
  | zonedDateTime | duration => exact ⟨rfl, rfl⟩
  | _ => cases plain

theorem self_alike (alike : Alike R v v) (distinct : ∀ d ∈ v.dicts, d.DistinctKeys) :
    (∀ x ∈ v.numbers, x.isNaN = false) ∧ ∀ x ∈ v.children, R x x := by
  cases alike with
  | plain is =>
    obtain ⟨none, none'⟩ := plain_bare is
    rw [none, none']
    exact ⟨List.forall_mem_nil _, List.forall_mem_nil _⟩
  | float given =>
    exact ⟨List.forall_mem_singleton.mpr (Binary64.sameNumber_self.mp given), nofun⟩
  | point2D given =>
    obtain ⟨-, x, y⟩ := samePoint2D_iff.mp given
    simp only [Binary64.sameNumber_self] at x y
    exact ⟨by simp [numbers, x, y], nofun⟩
  | point3D given =>
    obtain ⟨-, x, y, z⟩ := samePoint3D_iff.mp given
    simp only [Binary64.sameNumber_self] at x y z
    exact ⟨by simp [numbers, x, y, z], nofun⟩
  | dateTime given => exact ⟨nofun, nofun⟩
  | list items => exact ⟨nofun, List.forall₂_same.mp items⟩
  | map agrees => exact ⟨nofun, (Dict.agrees_self (distinct _ own_dict)).mp agrees⟩
  | node alike | relationship alike | unboundRelationship alike =>
    exact ⟨nofun, (entity_self (distinct _ own_dict)).mp alike⟩
  | path nodes relationships indices =>
    refine ⟨nofun, fun x among => ?_⟩
    rcases path_children.mp among with ⟨n, among, held⟩ | ⟨r, among, held⟩
    · exact (entity_self (distinct _ (node_dict among))).mp
        (List.forall₂_same.mp nodes n among) x held
    · exact (entity_self (distinct _ (unbound_dict among))).mp
        (List.forall₂_same.mp relationships r among) x held

theorem path_self {p : Path Value} (distinct : ∀ d ∈ (path p).dicts, d.DistinctKeys)
    (inside : ∀ x ∈ (path p).children, R x x) :
    (∀ n ∈ p.nodes, NodeAlike R n n) ∧ ∀ r ∈ p.relationships, UnboundAlike R r r := by
  constructor
  · intro n among
    apply (entity_self (distinct _ (node_dict among))).mpr
    exact fun x held => inside x (path_children.mpr (.inl ⟨n, among, held⟩))
  · intro r among
    apply (entity_self (distinct _ (unbound_dict among))).mpr
    exact fun x held => inside x (path_children.mpr (.inr ⟨r, among, held⟩))

theorem alike_self (numbers : ∀ x ∈ v.numbers, x.isNaN = false) (inside : ∀ x ∈ v.children, R x x)
    (distinct : ∀ d ∈ v.dicts, d.DistinctKeys) : Alike R v v := by
  simp only [← Binary64.sameNumber_self] at numbers
  cases v with
  | null | boolean | integer | string | bytes | date | time | localTime | localDateTime
  | zonedDateTime | duration => exact .plain rfl
  | float x => exact .float (numbers x List.mem_cons_self)
  | point2D p =>
    have all := List.forall_mem_cons.mp numbers
    exact .point2D (samePoint2D_iff.mpr ⟨rfl, all.1, all.2 p.y List.mem_cons_self⟩)
  | point3D p =>
    have all := List.forall_mem_cons.mp numbers
    have others := List.forall_mem_cons.mp all.2
    exact .point3D (samePoint3D_iff.mpr ⟨rfl, all.1, others.1, others.2 p.z List.mem_cons_self⟩)
  | dateTime t => exact .dateTime Calendar.DateTime.sameInstant_self
  | list items => exact .list (List.forall₂_same.mpr inside)
  | map d => exact .map ((Dict.agrees_self (distinct d own_dict)).mpr inside)
  | node n => exact .node ((entity_self (distinct _ own_dict)).mpr inside)
  | relationship r => exact .relationship ((entity_self (distinct _ own_dict)).mpr inside)
  | unboundRelationship r =>
    exact .unboundRelationship ((entity_self (distinct _ own_dict)).mpr inside)
  | path p =>
    obtain ⟨nodes, relationships⟩ := path_self distinct inside
    exact .path (List.forall₂_same.mpr nodes) (List.forall₂_same.mpr relationships) rfl

end Alike

section Entities

variable {σ κ : Type} {head : σ → κ} {properties : σ → Dict Value} {x y : σ}

theorem entity_iff {heads : Bool} (same : heads = true ↔ head x = head y)
    (distinct : (properties x).DistinctKeys) (distinct' : (properties y).DistinctKeys) :
    (heads && (properties x).sameEntries (properties y) fun w _ v _ => w.same v) = true ↔
      EntityAlike head properties (fun v w => w.same v = true) x y := by
  rw [Bool.and_eq_true, same, Dict.sameEntries_iff distinct distinct']
  constructor
  · exact fun both => ⟨both.1, both.2⟩
  · exact fun alike => ⟨alike.head, alike.properties⟩

variable {n m : Node Value} {r s : Relationship Value} {q t : UnboundRelationship Value}

theorem nodeAlike_iff (distinct : n.properties.DistinctKeys)
    (distinct' : m.properties.DistinctKeys) :
    (n.id == m.id && n.labels == m.labels &&
      n.properties.sameEntries m.properties fun w _ v _ => w.same v) = true ↔
      NodeAlike (fun v w => w.same v = true) n m := entity_iff (by simp) distinct distinct'

theorem relationshipAlike_iff (distinct : r.properties.DistinctKeys)
    (distinct' : s.properties.DistinctKeys) :
    (r.id == s.id && r.startNode == s.startNode && r.endNode == s.endNode && r.type == s.type &&
      r.properties.sameEntries s.properties fun w _ v _ => w.same v) = true ↔
      RelationshipAlike (fun v w => w.same v = true) r s :=
  entity_iff (by simp [and_assoc]) distinct distinct'

theorem unboundAlike_iff (distinct : q.properties.DistinctKeys)
    (distinct' : t.properties.DistinctKeys) :
    (q.id == t.id && q.type == t.type &&
      q.properties.sameEntries t.properties fun w _ v _ => w.same v) = true ↔
      UnboundAlike (fun v w => w.same v = true) q t := entity_iff (by simp) distinct distinct'

end Entities

/-- How the values inside are compared: members of lists with those of the other list, and what is
found under a key with what it was looked for. -/
def inward : Value → Value → Value → Prop
  | list _ => fun x y => x.same y = true
  | _ => fun x y => y.same x = true

/-- Equality is likeness of one level, and comparison of the values inside. -/
theorem same_step {v w : Value} (distinct : ∀ d ∈ v.dicts, d.DistinctKeys)
    (distinct' : ∀ d ∈ w.dicts, d.DistinctKeys) :
    v.same w = true ↔ Alike v.inward v w := by
  constructor
  · intro given
    rw [same.eq_def] at given
    split at given
    case h_1 => exact .plain rfl
    case h_2 a b | h_3 a b | h_5 a b | h_6 a b | h_15 a b | h_16 a b | h_17 a b | h_18 a b
        | h_20 a b | h_21 a b =>
      cases eq_of_beq given
      exact .plain rfl
    case h_4 => exact .float given
    case h_7 => exact .list (sameList_iff.mp given)
    case h_8 a b =>
      exact .map ((Dict.sameEntries_iff (distinct a own_dict) (distinct' b own_dict)).mp given)
    case h_9 n m =>
      exact .node ((nodeAlike_iff (distinct _ own_dict) (distinct' _ own_dict)).mp given)
    case h_10 r s =>
      exact .relationship ((relationshipAlike_iff (distinct _ own_dict)
        (distinct' _ own_dict)).mp given)
    case h_11 r s =>
      exact .unboundRelationship ((unboundAlike_iff (distinct _ own_dict)
        (distinct' _ own_dict)).mp given)
    case h_12 p q =>
      simp only [Bool.and_eq_true, beq_iff_eq] at given
      obtain ⟨⟨nodes, relationships⟩, indices⟩ := given
      refine .path (forall₂_imp (sameList_iff.mp nodes) ?_)
        (forall₂_imp (sameList_iff.mp relationships) ?_) indices
      · intro n among m among' alike
        exact (nodeAlike_iff (distinct _ (node_dict among))
          (distinct' _ (node_dict among'))).mp alike
      · intro r among s among' alike
        exact (unboundAlike_iff (distinct _ (unbound_dict among))
          (distinct' _ (unbound_dict among'))).mp alike
    case h_13 => exact .point2D given
    case h_14 => exact .point3D given
    case h_19 => exact .dateTime given
    case h_22 => cases given
  · intro alike
    rw [same.eq_def]
    cases alike with
    | plain is =>
      cases v with
      | null => rfl
      | boolean | integer | string | bytes | date | time | localTime | localDateTime
      | zonedDateTime | duration => exact beq_self_eq_true _
      | _ => cases is
    | float given | point2D given | point3D given | dateTime given => exact given
    | list items => exact sameList_iff.mpr items
    | map agrees =>
      exact (Dict.sameEntries_iff (distinct _ own_dict) (distinct' _ own_dict)).mpr agrees
    | node alike => exact (nodeAlike_iff (distinct _ own_dict) (distinct' _ own_dict)).mpr alike
    | relationship alike =>
      exact (relationshipAlike_iff (distinct _ own_dict) (distinct' _ own_dict)).mpr alike
    | unboundRelationship alike =>
      exact (unboundAlike_iff (distinct _ own_dict) (distinct' _ own_dict)).mpr alike
    | path nodes relationships indices =>
      simp only [Bool.and_eq_true, beq_iff_eq]
      refine ⟨⟨sameList_iff.mpr (forall₂_imp nodes ?_),
        sameList_iff.mpr (forall₂_imp relationships ?_)⟩, indices⟩
      · intro n among m among' alike
        exact (nodeAlike_iff (distinct _ (node_dict among))
          (distinct' _ (node_dict among'))).mpr alike
      · intro r among s among' alike
        exact (unboundAlike_iff (distinct _ (unbound_dict among))
          (distinct' _ (unbound_dict among'))).mpr alike

/-! ## All levels -/

def lacksNaN (v : Value) : Bool := v.everywhere fun part => part.numbers.all fun x => !x.isNaN

section Levels

variable {u v w : Value}

theorem lacksNaN_iff : v.lacksNaN = true ↔ (∀ x ∈ v.numbers, x.isNaN = false) ∧
    ∀ child ∈ v.children, child.lacksNaN = true := by
  unfold lacksNaN
  rw [everywhere_iff]
  simp only [List.all_eq_true, Bool.not_eq_true']

theorem inward_iff {x y : Value} (turned : x.same y = true ↔ y.same x = true) :
    v.inward x y ↔ x.same y = true := by
  cases v with
  | list => rfl
  | _ => exact turned.symm

/-- Which of the two is compared with the other makes no difference. -/
theorem same_comm (distinct : v.hasDistinctKeys = true) (distinct' : w.hasDistinctKeys = true) :
    v.same w = true ↔ w.same v = true := by
  induction v using child_induction generalizing w with
  | step v ih =>
    obtain ⟨keys, inside⟩ := distinct_iff.mp distinct
    obtain ⟨keys', inside'⟩ := distinct_iff.mp distinct'
    have turned (x) (among : x ∈ v.children) (y) (among' : y ∈ w.children) :
        x.same y = true ↔ y.same x = true := ih x among (inside x among) (inside' y among')
    rw [same_step keys keys', same_step keys' keys]
    constructor
    · intro alike
      apply alike_imp (alike_flip alike)
      intro y among' x among related
      have both := turned x among y among'
      exact (inward_iff both.symm).mpr (both.mp ((inward_iff both).mp related))
    · intro alike
      apply alike_imp (alike_flip alike)
      intro x among y among' related
      have both := turned x among y among'
      exact (inward_iff both).mpr (both.mpr ((inward_iff both.symm).mp related))

theorem same_iff (distinct : v.hasDistinctKeys = true) (distinct' : w.hasDistinctKeys = true) :
    v.same w = true ↔ Alike (fun x y => x.same y = true) v w := by
  obtain ⟨keys, inside⟩ := distinct_iff.mp distinct
  obtain ⟨keys', inside'⟩ := distinct_iff.mp distinct'
  have turned (x) (among : x ∈ v.children) (y) (among' : y ∈ w.children) :
      v.inward x y ↔ x.same y = true :=
    inward_iff (same_comm (inside x among) (inside' y among'))
  rw [same_step keys keys']
  constructor
  · exact fun alike => alike_imp alike fun x among y among' => (turned x among y among').mp
  · exact fun alike => alike_imp alike fun x among y among' => (turned x among y among').mpr

theorem same_trans (distinct : u.hasDistinctKeys = true) (distinct' : v.hasDistinctKeys = true)
    (distinct'' : w.hasDistinctKeys = true) (first : u.same v = true) (second : v.same w = true) :
    u.same w = true := by
  induction u using child_induction generalizing v w with
  | step u ih =>
    obtain ⟨-, inside⟩ := distinct_iff.mp distinct
    obtain ⟨-, inside'⟩ := distinct_iff.mp distinct'
    obtain ⟨-, inside''⟩ := distinct_iff.mp distinct''
    rw [same_iff distinct distinct'] at first
    rw [same_iff distinct' distinct''] at second
    rw [same_iff distinct distinct'']
    apply alike_imp (alike_trans first second)
    rintro x among z among'' ⟨y, among', related, related'⟩
    exact ih x among (inside x among) (inside' y among') (inside'' z among'') related related'

theorem same_self (distinct : v.hasDistinctKeys = true) : v.same v = true ↔ v.lacksNaN = true := by
  induction v using child_induction with
  | step v ih =>
    obtain ⟨keys, inside⟩ := distinct_iff.mp distinct
    rw [same_iff distinct distinct, lacksNaN_iff]
    constructor
    · intro alike
      obtain ⟨numbers, each⟩ := self_alike alike keys
      exact ⟨numbers, fun x among => (ih x among (inside x among)).mp (each x among)⟩
    · rintro ⟨numbers, each⟩
      apply alike_self numbers _ keys
      exact fun x among => (ih x among (inside x among)).mpr (each x among)

end Levels

/-! ## Order of entries -/

inductive Around : (Dict Value → Value) → Prop
  | map : Around map
  | node (n : Node Value) : Around fun d => node { n with properties := d }
  | relationship (r : Relationship Value) : Around fun d => relationship { r with properties := d }
  | unboundRelationship (r : UnboundRelationship Value) :
    Around fun d => unboundRelationship { r with properties := d }
  | pathNode (early late : List (Node Value)) (n : Node Value)
    (relationships : List (UnboundRelationship Value)) (indices : List Int64) :
    Around fun d => path ⟨early ++ { n with properties := d } :: late, relationships, indices⟩
  | pathRelationship (nodes : List (Node Value)) (early late : List (UnboundRelationship Value))
    (r : UnboundRelationship Value) (indices : List Int64) :
    Around fun d => path ⟨nodes, early ++ { r with properties := d } :: late, indices⟩

/-- The entries of one map have changed places, anywhere inside. -/
inductive Reordered : Value → Value → Prop
  | here {around : Dict Value → Value} {a b : Dict Value} : Around around →
    a.entries.Perm b.entries → Reordered (around a) (around b)
  | inMap {around : Dict Value → Value} {early late : List (String × Value)} {key : String}
    {x y : Value} : Around around → Reordered x y →
    Reordered (around ⟨early ++ (key, x) :: late⟩) (around ⟨early ++ (key, y) :: late⟩)
  | inList {early late : List Value} {x y : Value} : Reordered x y →
    Reordered (list (early ++ x :: late)) (list (early ++ y :: late))

section Order

variable {around : Dict Value → Value} {a b : Dict Value} {v w x y : Value}

theorem around_dict (place : Around around) : a ∈ (around a).dicts := by
  cases place <;> simp [dicts]

theorem around_values (place : Around around) (held : x ∈ a.values) : x ∈ (around a).children := by
  cases place <;> simp [children, held]

theorem around_dicts (place : Around around) {d : Dict Value} (among : d ∈ (around b).dicts) :
    d = b ∨ d ∈ (around a).dicts := by
  cases place <;> simp [dicts] at among ⊢ <;> grind

theorem around_children (place : Around around) (among : x ∈ (around b).children) :
    x ∈ b.values ∨ x ∈ (around a).children := by
  cases place <;> simp [children] at among ⊢ <;> grind

theorem around_alike {R : Value → Value → Prop} (place : Around around) (agrees : a.Agrees R b)
    (distinct : ∀ d ∈ (around a).dicts, d.DistinctKeys)
    (inside : ∀ x ∈ (around a).children, R x x) : Alike R (around a) (around b) := by
  cases place with
  | map => exact .map agrees
  | node n => exact .node ⟨rfl, agrees⟩
  | relationship r => exact .relationship ⟨rfl, agrees⟩
  | unboundRelationship r => exact .unboundRelationship ⟨rfl, agrees⟩
  | pathNode early late n relationships indices =>
    obtain ⟨nodes, relationships⟩ := path_self distinct inside
    exact .path (forall₂_middle nodes ⟨rfl, agrees⟩) (List.forall₂_same.mpr relationships) rfl
  | pathRelationship nodes early late r indices =>
    obtain ⟨nodes, relationships⟩ := path_self distinct inside
    exact .path (List.forall₂_same.mpr nodes) (forall₂_middle relationships ⟨rfl, agrees⟩) rfl

theorem children_same (distinct : v.hasDistinctKeys = true) (numbers : v.lacksNaN = true) :
    ∀ x ∈ v.children, x.same x = true := fun x among =>
  (same_self ((distinct_iff.mp distinct).2 x among)).mpr ((lacksNaN_iff.mp numbers).2 x among)

/-- A map inside is replaced by one that agrees with it. -/
theorem around_same (place : Around around) (distinct : (around a).hasDistinctKeys = true)
    (numbers : (around a).lacksNaN = true) (agrees : a.Agrees (fun x y => x.same y = true) b)
    (keys' : b.DistinctKeys) (inside' : ∀ x ∈ b.values, x.hasDistinctKeys = true) :
    (around b).hasDistinctKeys = true ∧ (around a).same (around b) = true := by
  obtain ⟨keys, inside⟩ := distinct_iff.mp distinct
  have keys'' : ∀ d ∈ (around b).dicts, d.DistinctKeys := by
    intro d among
    rcases around_dicts place among with rfl | old
    · exact keys'
    · exact keys d old
  have distinct' : (around b).hasDistinctKeys = true := by
    refine distinct_iff.mpr ⟨keys'', fun x among => ?_⟩
    rcases around_children place among with new | old
    · exact inside' x new
    · exact inside x old
  refine ⟨distinct', (same_iff distinct distinct').mpr ?_⟩
  exact around_alike place agrees keys (children_same distinct numbers)

theorem reordered_same (reordered : Reordered v w) (distinct : v.hasDistinctKeys = true)
    (numbers : v.lacksNaN = true) : w.hasDistinctKeys = true ∧ v.same w = true := by
  -- By induction on the way down to the map. That keys stay distinct goes along, as equality is
  -- agreement only if they are.
  induction reordered with
  | @here around a b place perm =>
    obtain ⟨keys, inside⟩ := distinct_iff.mp distinct
    have own := keys a (around_dict place)
    have self (x : Value) (held : x ∈ a.values) :=
      children_same distinct numbers x (around_values place held)
    apply around_same place distinct numbers (Dict.agrees_perm perm own self)
      (Dict.distinct_perm perm own)
    intro x held
    exact inside x (around_values place ((perm.map Prod.snd).mem_iff.mpr held))
  | @inMap around early late key x y place _ ih =>
    obtain ⟨keys, inside⟩ := distinct_iff.mp distinct
    have own := keys _ (around_dict place)
    have self (z : Value) (held : z ∈ (Dict.mk (early ++ (key, x) :: late)).values) :=
      children_same distinct numbers z (around_values place held)
    have child : x ∈ (around ⟨early ++ (key, x) :: late⟩).children :=
      around_values place (by simp [Dict.values])
    obtain ⟨distinct', same⟩ := ih (inside x child) ((lacksNaN_iff.mp numbers).2 x child)
    apply around_same place distinct numbers (Dict.agrees_middle own self same)
      (Dict.distinct_middle own)
    intro z held
    have either : z = y ∨ z ∈ (Dict.mk (early ++ (key, x) :: late)).values := by
      simp only [Dict.values, List.map_append, List.map_cons, List.mem_append, List.mem_cons]
        at held ⊢
      tauto
    rcases either with rfl | old
    · exact distinct'
    · exact inside z (around_values place old)
  | @inList early late x y _ ih =>
    obtain ⟨-, inside⟩ := distinct_iff.mp distinct
    have child : x ∈ early ++ x :: late := List.mem_append_right _ List.mem_cons_self
    obtain ⟨distinct', same⟩ := ih (inside x child) ((lacksNaN_iff.mp numbers).2 x child)
    have distinct'' : (list (early ++ y :: late)).hasDistinctKeys = true := by
      refine distinct_iff.mpr ⟨List.forall_mem_nil _, fun z among => ?_⟩
      rcases List.mem_append.mp among with before | behind
      · exact inside z (List.mem_append_left _ before)
      · rcases List.mem_cons.mp behind with rfl | after
        · exact distinct'
        · exact inside z (List.mem_append_right _ (List.mem_cons_of_mem _ after))
    refine ⟨distinct'', (same_iff distinct distinct'').mpr ?_⟩
    exact .list (forall₂_middle (children_same distinct numbers) same)

/-- However many maps are reordered, and however often. -/
theorem reorderings_same (reordered : Relation.ReflTransGen Reordered v w)
    (distinct : v.hasDistinctKeys = true) (numbers : v.lacksNaN = true) :
    w.hasDistinctKeys = true ∧ v.same w = true := by
  induction reordered with
  | refl => exact ⟨distinct, (same_self distinct).mpr numbers⟩
  | @tail u w _ last ih =>
    obtain ⟨distinct', same⟩ := ih
    have numbers' : u.lacksNaN = true := by
      rw [← same_self distinct']
      exact same_trans distinct' distinct distinct' ((same_comm distinct distinct').mp same) same
    obtain ⟨distinct'', same'⟩ := reordered_same last distinct' numbers'
    exact ⟨distinct'', same_trans distinct distinct' distinct'' same same'⟩

end Order

/-! ## Equality -/

def sinceEpoch (t : Calendar.DateTime) : Int := t.utc.second * 10 ^ 9 + t.utc.nanos

theorem sameInstant_sinceEpoch {t u : Calendar.DateTime}
    (unleaping : t.utc.nanos < 10 ^ 9) (unleaping' : u.utc.nanos < 10 ^ 9) :
    t.sameInstant u = true ↔ sinceEpoch t = sinceEpoch u := by
  rw [Calendar.DateTime.sameInstant_iff]
  unfold sinceEpoch
  omega

theorem sameInstant_walls {t u : Calendar.DateTime} {wall wall' : Calendar.LocalDateTime}
    (shown : t.wall? = some wall) (shown' : u.wall? = some wall') :
    t.sameInstant u = true ↔ wall.second - t.offset.seconds = wall'.second - u.offset.seconds ∧
      wall.nanos = wall'.nanos := by
  rw [Calendar.DateTime.sameInstant_iff, (Calendar.DateTime.wall_given shown).1,
    (Calendar.DateTime.wall_given shown).2, (Calendar.DateTime.wall_given shown').1,
    (Calendar.DateTime.wall_given shown').2]

/-- Equality of values whose maps have distinct keys. It is symmetric and transitive, a value is
equal to itself if and only if it holds no not-a-number, and then it is equal to whatever comes of
it when entries of maps change places. Date-times are equal if and only if they are the same second
at Greenwich with the same nanoseconds; a leap second apart these are one number. Where the local
clocks show something, it is the same once the offsets are taken away. -/
theorem same_lawful {u v w : Value} (distinct : u.hasDistinctKeys = true)
    (distinct' : v.hasDistinctKeys = true) (distinct'' : w.hasDistinctKeys = true) :
    (u.same v = true → v.same u = true) ∧
    (u.same v = true → v.same w = true → u.same w = true) ∧
    (u.same u = true ↔ u.lacksNaN = true) ∧
    (u.lacksNaN = true → ∀ x, Relation.ReflTransGen Reordered u x → u.same x = true) ∧
    (∀ t s : Calendar.DateTime, (dateTime t).same (dateTime s) = true ↔
      t.utc.second = s.utc.second ∧ t.utc.nanos = s.utc.nanos) ∧
    (∀ (t s : Calendar.DateTime) (wall wall' : Calendar.LocalDateTime), t.wall? = some wall →
      s.wall? = some wall' → ((dateTime t).same (dateTime s) = true ↔
        wall.second - t.offset.seconds = wall'.second - s.offset.seconds ∧
          wall.nanos = wall'.nanos)) ∧
    ∀ t s : Calendar.DateTime, t.utc.nanos < 10 ^ 9 → s.utc.nanos < 10 ^ 9 →
      ((dateTime t).same (dateTime s) = true ↔ sinceEpoch t = sinceEpoch s) := by
  have instant (t s : Calendar.DateTime) :
      (dateTime t).same (dateTime s) = true ↔ t.sameInstant s = true := by rw [same]
  refine ⟨(same_comm distinct distinct').mp, same_trans distinct distinct' distinct'',
    same_self distinct, ?_, ?_, ?_, ?_⟩
  · exact fun numbers x reordered => (reorderings_same reordered distinct numbers).2
  · exact fun t s => (instant t s).trans Calendar.DateTime.sameInstant_iff
  · exact fun t s wall wall' shown shown' => (instant t s).trans (sameInstant_walls shown shown')
  · exact fun t s unleaping unleaping' =>
      (instant t s).trans (sameInstant_sinceEpoch unleaping unleaping')

def sampleWith (inner : Dict Value) : Value :=
  list [node ⟨1, ["A"], ⟨[("p", integer 2), ("q", map inner)]⟩⟩, float ⟨0⟩]

/-- The map is read from behind. -/
theorem sample_reordered :
    (sampleWith ⟨[("x", null), ("y", boolean true)]⟩).same
      (sampleWith ⟨[("y", boolean true), ("x", null)]⟩) = true ∧
    (sampleWith ⟨[("y", boolean true), ("x", null)]⟩).same
      (sampleWith ⟨[("x", null), ("y", boolean true)]⟩) = true := by
  have distinct : (sampleWith ⟨[("x", null), ("y", boolean true)]⟩).hasDistinctKeys = true := by
    cbv
  have distinct' : (sampleWith ⟨[("y", boolean true), ("x", null)]⟩).hasDistinctKeys = true := by
    cbv
  have numbers : (sampleWith ⟨[("x", null), ("y", boolean true)]⟩).lacksNaN = true := by cbv
  have swapped : Reordered (map ⟨[("x", null), ("y", boolean true)]⟩)
      (map ⟨[("y", boolean true), ("x", null)]⟩) := .here .map (.swap _ _ _)
  have inside : Reordered (sampleWith ⟨[("x", null), ("y", boolean true)]⟩)
      (sampleWith ⟨[("y", boolean true), ("x", null)]⟩) :=
    @Reordered.inList [] [float ⟨0⟩] _ _ (@Reordered.inMap _ [("p", integer 2)] [] "q" _ _
      (.node ⟨1, ["A"], .empty⟩) swapped)
  obtain ⟨turned, -, -, kept, -⟩ := same_lawful distinct distinct' distinct
  have same := kept numbers _ (.single inside)
  exact ⟨same, turned same⟩

end Value

end GraphProtocol
