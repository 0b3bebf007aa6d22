import Mathlib.Data.List.Nodup
import Mathlib.Data.List.Pairwise
import Mathlib.Logic.Relation
import Mathlib.Order.Basic

/-!
# Forests given by parent pointers

A function from nodes to optional parents is a forest where every node has a lineage, a finite path
of parents that ends at a root.  The descendants of a node are listed by a recursion over its
children that is cut off at a number of levels; where no lineage is longer than that, the list is
the pre-order of the subtree.
-/

namespace Lib

variable {α : Type} {parent : α → Option α}

/-- A node and its parent. -/
def ChildOf (parent : α → Option α) (child up : α) : Prop := parent child = some up

/-- A node and one of its proper ancestors. -/
def Below (parent : α → Option α) : α → α → Prop := Relation.TransGen (ChildOf parent)

/-- The path from `start` through its ancestors to a root. -/
inductive Lineage (parent : α → Option α) : Option α → List α → Prop
  | root : Lineage parent none []
  | step {node : α} {above : List α} (rest : Lineage parent (parent node) above) :
      Lineage parent (some node) (node :: above)

theorem childOf_rightUnique : Relator.RightUnique (ChildOf parent) := by
  intro child up other first second
  exact Option.some.inj (first.symm.trans second)

namespace Lineage

variable {start : Option α} {node other : α} {path above : List α}

theorem of_some (lineage : Lineage parent (some node) path) :
    ∃ above, path = node :: above ∧ Lineage parent (parent node) above := by
  cases lineage with
  | step rest => exact ⟨_, rfl, rest⟩

theorem unique (lineage : Lineage parent start path) {path' : List α}
    (lineage' : Lineage parent start path') : path = path' := by
  induction lineage generalizing path' with
  | root => cases lineage'; rfl
  | step rest ih =>
      cases lineage' with
      | step rest' => rw [ih rest']

/-- Each node of a lineage has the rest of it as its own. -/
theorem split (lineage : Lineage parent start path) {front back : List α}
    (at_node : path = front ++ node :: back) : Lineage parent (some node) (node :: back) := by
  induction lineage generalizing front with
  | root => simp at at_node
  | @step first above rest ih =>
      cases front with
      | nil =>
          obtain ⟨rfl, rfl⟩ : first = node ∧ above = back := by simpa using at_node
          exact .step rest
      | cons head front =>
          obtain ⟨rfl, rfl⟩ : first = head ∧ above = front ++ node :: back := by
            simpa using at_node
          exact ih rfl

/-- No node comes twice in a lineage, since its lineage would contain itself. -/
theorem not_mem (lineage : Lineage parent (some node) (node :: above)) : node ∉ above := by
  intro again
  obtain ⟨front, back, rfl⟩ := List.append_of_mem again
  have inner : Lineage parent (some node) (node :: back) :=
    lineage.split (show node :: (front ++ node :: back) = (node :: front) ++ node :: back from rfl)
  have twice := unique lineage inner
  have lengths := congrArg List.length twice
  simp only [List.length_cons, List.length_append] at lengths
  omega

theorem nodup (lineage : Lineage parent start path) : path.Nodup := by
  induction lineage with
  | root => exact List.nodup_nil
  | step rest ih => exact List.nodup_cons.mpr ⟨not_mem (.step rest), ih⟩

/-- The rest of a lineage is the proper ancestors. -/
theorem mem_iff (lineage : Lineage parent (some node) (node :: above)) :
    other ∈ above ↔ Below parent node other := by
  constructor
  · intro member
    have reached : ∀ {start path}, Lineage parent start path → ∀ up ∈ path, ∀ child,
        parent child = start → Below parent child up := by
      intro start path lineage
      induction lineage with
      | root => intro up member; cases member
      | @step first above rest ih =>
          intro up member child linked
          rcases List.mem_cons.mp member with rfl | later
          · exact .single linked
          · exact .head linked (ih up later first rfl)
    obtain ⟨_, same, rest⟩ := lineage.of_some
    obtain rfl := (List.cons.inj same).2
    exact reached rest other member node rfl
  · intro below
    induction below using Relation.TransGen.head_induction_on generalizing above with
    | single linked =>
        obtain ⟨_, same, rest⟩ := lineage.of_some
        obtain rfl := (List.cons.inj same).2
        rw [show parent _ = some other from linked] at rest
        obtain ⟨_, rfl, -⟩ := rest.of_some
        exact List.mem_cons_self
    | head linked later ih =>
        obtain ⟨_, same, rest⟩ := lineage.of_some
        obtain rfl := (List.cons.inj same).2
        rw [show parent _ = some _ from linked] at rest
        obtain ⟨_, rfl, -⟩ := rest.of_some
        exact List.mem_cons_of_mem _ (ih rest)

/-- A lineage ends at a root. -/
theorem exists_root (lineage : Lineage parent (some node) path) :
    ∃ root, parent root = none ∧ Relation.ReflTransGen (ChildOf parent) node root := by
  induction path generalizing node with
  | nil => cases lineage
  | cons first above ih =>
      obtain ⟨_, same, rest⟩ := lineage.of_some
      obtain ⟨rfl, rfl⟩ := List.cons.inj same
      cases linked : parent first with
      | none => exact ⟨first, linked, .refl⟩
      | some up =>
          rw [linked] at rest
          obtain ⟨root, top, reaches⟩ := ih rest
          exact ⟨root, top, .head linked reaches⟩

/-- A node with a lineage is not its own ancestor. -/
theorem not_below (lineage : Lineage parent (some node) path) : ¬ Below parent node node := by
  obtain ⟨above, rfl, -⟩ := lineage.of_some
  exact fun below => lineage.not_mem (lineage.mem_iff.mpr below)

/-- A node and a proper ancestor of it have different parents. -/
theorem parent_ne_of_below (lineage : Lineage parent (some other) path)
    (below : Below parent node other) : parent node ≠ parent other := by
  intro same
  obtain ⟨up, linked, later⟩ := Relation.TransGen.head'_iff.mp below
  have linked' : ChildOf parent other up := same.symm.trans linked
  exact lineage.not_below (Relation.TransGen.head' linked' later)

/-- Siblings with a common descendant are the same. -/
theorem eq_of_common {left right : α} {path' : List α}
    (lineage : Lineage parent (some left) path) (lineage' : Lineage parent (some right) path')
    (siblings : parent left = parent right)
    (first : Relation.ReflTransGen (ChildOf parent) node left)
    (second : Relation.ReflTransGen (ChildOf parent) node right) : left = right := by
  rcases first.total_of_right_unique childOf_rightUnique second with upward | upward
  · rcases Relation.reflTransGen_iff_eq_or_transGen.mp upward with same | below
    · exact same.symm
    · exact absurd siblings (lineage'.parent_ne_of_below below)
  · rcases Relation.reflTransGen_iff_eq_or_transGen.mp upward with same | below
    · exact same
    · exact absurd siblings.symm (lineage.parent_ne_of_below below)

end Lineage

/-! ## Pre-order -/

/-- A list in which each element is followed at once by all its descendants, no element comes twice,
and siblings come in increasing order. -/
structure PreOrder [LT α] (parent : α → Option α) (order : List α) : Prop where
  nodup : order.Nodup
  subtrees : ∀ front node back, order = front ++ node :: back →
    ∃ subtree rest, back = subtree ++ rest ∧ ∀ other, other ∈ subtree ↔ Below parent other node
  siblings : order.Pairwise fun left right => parent left = parent right → left < right

namespace PreOrder

variable {left right : List α}

theorem nil [LT α] : PreOrder parent ([] : List α) :=
  ⟨List.nodup_nil, fun _ _ _ split => by simp at split, .nil⟩

/-- Two lists one after the other, when no element of the second belongs into the first. -/
theorem append [LT α] (first : PreOrder parent left) (second : PreOrder parent right)
    (apart : ∀ node ∈ left, node ∉ right)
    (siblings : ∀ node ∈ left, ∀ other ∈ right, parent node = parent other → node < other) :
    PreOrder parent (left ++ right) where
  nodup := by
    refine List.nodup_append.mpr ⟨first.nodup, second.nodup, ?_⟩
    rintro node member _ member' rfl
    exact apart node member member'
  subtrees front node back split := by
    rcases List.append_eq_append_iff.mp split with ⟨middle, -, tail⟩ | ⟨middle, front', tail⟩
    · exact second.subtrees middle node back tail
    · cases middle with
      | nil => exact second.subtrees [] node back tail.symm
      | cons head middle =>
          obtain ⟨rfl, rfl⟩ : node = head ∧ back = middle ++ right := by simpa using tail
          obtain ⟨subtree, rest, rfl, below⟩ := first.subtrees front node middle front'
          exact ⟨subtree, rest ++ right, List.append_assoc .., below⟩
  siblings := List.pairwise_append.mpr ⟨first.siblings, second.siblings, siblings⟩

/-- A node in front of its descendants. -/
theorem cons [LT α] {node : α} {path : List α} (lineage : Lineage parent (some node) path)
    (later : PreOrder parent right) (below : ∀ other, other ∈ right ↔ Below parent other node) :
    PreOrder parent (node :: right) where
  nodup := List.nodup_cons.mpr ⟨fun member => lineage.not_below ((below node).mp member), later.nodup⟩
  subtrees front first back split := by
    cases front with
    | nil =>
        obtain ⟨rfl, rfl⟩ : node = first ∧ right = back := by simpa using split
        exact ⟨right, [], (List.append_nil right).symm, below⟩
    | cons head front =>
        obtain ⟨-, tail⟩ : node = head ∧ right = front ++ first :: back := by simpa using split
        exact later.subtrees front first back tail
  siblings := List.pairwise_cons.mpr ⟨fun other member same =>
    absurd same.symm (lineage.parent_ne_of_below ((below other).mp member)), later.siblings⟩

/-- The subtrees of siblings in increasing order, each in pre-order. -/
theorem flatMap [Preorder α] {tops : List α} {up : Option α} {tree : α → List α}
    (rooted : ∀ top ∈ tops, ∃ path, Lineage parent (some top) path)
    (siblings : ∀ top ∈ tops, parent top = up) (increasing : tops.Pairwise (· < ·))
    (each : ∀ top ∈ tops, PreOrder parent (tree top))
    (inside : ∀ top ∈ tops, ∀ node ∈ tree top,
      Relation.ReflTransGen (ChildOf parent) node top) :
    PreOrder parent (tops.flatMap tree) := by
  induction tops with
  | nil => exact nil
  | cons top tops ih =>
      simp only [List.forall_mem_cons] at rooted siblings each inside
      obtain ⟨least, increasing⟩ := List.pairwise_cons.mp increasing
      have apart : ∀ node, Relation.ReflTransGen (ChildOf parent) node top → ∀ other ∈ tops,
          ¬ Relation.ReflTransGen (ChildOf parent) node other := by
        intro node reaches other among reaches'
        obtain ⟨path, lineage⟩ := rooted.1
        obtain ⟨path', lineage'⟩ := rooted.2 other among
        have same := siblings.1.trans (siblings.2 other among).symm
        obtain rfl := lineage.eq_of_common lineage' same reaches reaches'
        exact lt_irrefl top (least top among)
      rw [List.flatMap_cons]
      apply append each.1 (ih rooted.2 siblings.2 increasing each.2 inside.2)
      · intro node member member'
        obtain ⟨other, among, within⟩ := List.mem_flatMap.mp member'
        exact apart node (inside.1 node member) other among (inside.2 other among node within)
      · intro node member other member' same
        obtain ⟨sibling, among, within⟩ := List.mem_flatMap.mp member'
        have reaches := inside.2 sibling among other within
        rcases Relation.reflTransGen_iff_eq_or_transGen.mp (inside.1 node member) with rfl | below
        · rcases Relation.reflTransGen_iff_eq_or_transGen.mp reaches with rfl | below
          · exact least _ among
          · -- The parent of `other` is at or under the sibling, and it is that of `node`.
            obtain ⟨up, linked, later⟩ := Relation.TransGen.head'_iff.mp below
            have linked' : ChildOf parent top up := same.trans linked
            exact absurd (Relation.ReflTransGen.head linked' later) (apart top .refl sibling among)
        · obtain ⟨up, linked, later⟩ := Relation.TransGen.head'_iff.mp below
          have linked' : ChildOf parent other up := same.symm.trans linked
          exact absurd reaches
            (apart other (Relation.ReflTransGen.head linked' later) sibling among)

end PreOrder

/-! ## Descent -/

/-- The nodes under `node` with their depths, down to a number of levels. -/
def descend (children : α → List α) : Nat → Nat → α → List (Nat × α)
  | 0, _, _ => []
  | levels + 1, depth, node =>
      (depth, node) :: (children node).flatMap (descend children levels (depth + 1))

/-- The nodes under `node`, down to a number of levels. -/
def subtree (children : α → List α) (levels depth : Nat) (node : α) : List α :=
  (descend children levels depth node).map Prod.snd

/-- The nodes listed under each known node are its children, and they are known. -/
structure ListsChildren (parent : α → Option α) (known : α → Prop) (children : α → List α) :
    Prop where
  mem_iff : ∀ node, known node → ∀ child, child ∈ children node ↔ ChildOf parent child node
  known : ∀ node, known node → ∀ child ∈ children node, known child

section Descend

variable {children : α → List α} {known : α → Prop}

theorem subtree_succ (levels depth : Nat) (node : α) :
    subtree children (levels + 1) depth node =
      node :: (children node).flatMap (subtree children levels (depth + 1)) := by
  rw [subtree, descend, List.map_cons, List.map_flatMap]
  rfl

/-- The lineage of a child extends that of its parent. -/
theorem ListsChildren.lineage (lists : ListsChildren parent known children) {node child : α}
    {above : List α} (here : known node) (lineage : Lineage parent (some node) (node :: above))
    (among : child ∈ children node) :
    Lineage parent (some child) (child :: node :: above) := by
  apply Lineage.step
  rw [show parent child = some node from (lists.mem_iff node here child).mp among]
  exact lineage

/-- The depth listed with a node is the number of its proper ancestors. -/
theorem descend_depth (lists : ListsChildren parent known children) {levels depth : Nat} {node : α}
    {above : List α} (here : known node)
    (lineage : Lineage parent (some node) (node :: above)) (deep : above.length = depth)
    {entry : Nat × α} (listed : entry ∈ descend children levels depth node) :
    ∃ above, Lineage parent (some entry.2) (entry.2 :: above) ∧ above.length = entry.1 := by
  induction levels generalizing depth node above with
  | zero => cases listed
  | succ levels ih =>
      rcases List.mem_cons.mp listed with rfl | later
      · exact ⟨above, lineage, deep⟩
      · obtain ⟨child, among, inside⟩ := List.mem_flatMap.mp later
        exact ih (lists.known node here child among) (lists.lineage here lineage among)
          (by simp [deep]) inside

/-- With enough levels the subtree of a node is the node and all its descendants. -/
theorem mem_subtree (lists : ListsChildren parent known children) {levels depth : Nat}
    (shallow : ∀ node above, Lineage parent (some node) (node :: above) →
      above.length < depth + levels)
    {node : α} {above : List α} (here : known node)
    (lineage : Lineage parent (some node) (node :: above)) (deep : above.length = depth)
    (other : α) :
    other ∈ subtree children levels depth node ↔
      Relation.ReflTransGen (ChildOf parent) other node := by
  induction levels generalizing depth node above with
  | zero =>
      have bounded := shallow node above lineage
      omega
  | succ levels ih =>
      have inner : ∀ child ∈ children node,
          (other ∈ subtree children levels (depth + 1) child ↔
            Relation.ReflTransGen (ChildOf parent) other child) := by
        intro child among
        apply ih _ (lists.known node here child among) (lists.lineage here lineage among)
          (by simp [deep])
        intro node above lineage
        have bounded := shallow node above lineage
        omega
      rw [subtree_succ, List.mem_cons, List.mem_flatMap,
        Relation.reflTransGen_iff_eq_or_transGen, Relation.TransGen.tail'_iff]
      constructor
      · rintro (rfl | ⟨child, among, within⟩)
        · exact .inl rfl
        · have under := (lists.mem_iff node here child).mp among
          exact .inr ⟨child, (inner child among).mp within, under⟩
      · rintro (rfl | ⟨child, reaches, under⟩)
        · exact .inl rfl
        · have among := (lists.mem_iff node here child).mpr under
          exact .inr ⟨child, among, (inner child among).mpr reaches⟩

/-- With enough levels, and with children in increasing order, a subtree is in pre-order. -/
theorem preOrder_subtree [Preorder α] (lists : ListsChildren parent known children)
    (increasing : ∀ node, (children node).Pairwise (· < ·)) {levels depth : Nat}
    (shallow : ∀ node above, Lineage parent (some node) (node :: above) →
      above.length < depth + levels)
    {node : α} {above : List α} (here : known node)
    (lineage : Lineage parent (some node) (node :: above)) (deep : above.length = depth) :
    PreOrder parent (subtree children levels depth node) := by
  induction levels generalizing depth node above with
  | zero => exact PreOrder.nil
  | succ levels ih =>
      have under := lists.mem_iff node here
      have known' := lists.known node here
      have shallow' : ∀ node above, Lineage parent (some node) (node :: above) →
          above.length < depth + 1 + levels := by
        intro node above lineage
        have bounded := shallow node above lineage
        omega
      have members : ∀ child ∈ children node, ∀ other,
          other ∈ subtree children levels (depth + 1) child ↔
            Relation.ReflTransGen (ChildOf parent) other child :=
        fun child among => mem_subtree lists shallow' (known' child among)
          (lists.lineage here lineage among) (by simp [deep])
      rw [subtree_succ]
      apply PreOrder.cons lineage
      · apply PreOrder.flatMap (fun child among => ⟨_, lists.lineage here lineage among⟩)
          (fun child among => (under child).mp among) (increasing node)
        · exact fun child among => ih shallow' (known' child among)
            (lists.lineage here lineage among) (by simp [deep])
        · exact fun child among other => (members child among other).mp
      · intro other
        rw [List.mem_flatMap, Below, Relation.TransGen.tail'_iff]
        constructor
        · rintro ⟨child, among, within⟩
          exact ⟨child, (members child among other).mp within, (under child).mp among⟩
        · rintro ⟨child, reaches, linked⟩
          have among := (under child).mpr linked
          exact ⟨child, among, (members child among other).mpr reaches⟩

/-! ## Whole forests -/

/-- A root is all of its lineage. -/
theorem lineage_of_root {root : α} (top : parent root = none) :
    Lineage parent (some root) [root] := by
  apply Lineage.step
  rw [top]
  exact .root

theorem mem_forest (lists : ListsChildren parent known children) {levels : Nat}
    (shallow : ∀ node above, Lineage parent (some node) (node :: above) → above.length < levels)
    {roots : List α} (tops : ∀ root ∈ roots, known root ∧ parent root = none) (other : α) :
    other ∈ roots.flatMap (subtree children levels 0) ↔
      ∃ root ∈ roots, Relation.ReflTransGen (ChildOf parent) other root := by
  have inside : ∀ root ∈ roots, (other ∈ subtree children levels 0 root ↔
      Relation.ReflTransGen (ChildOf parent) other root) := by
    intro root member
    obtain ⟨here, top⟩ := tops root member
    exact mem_subtree lists (by simpa using shallow) here (lineage_of_root top) rfl other
  rw [List.mem_flatMap]
  constructor
  · rintro ⟨root, member, within⟩
    exact ⟨root, member, (inside root member).mp within⟩
  · rintro ⟨root, member, reaches⟩
    exact ⟨root, member, (inside root member).mpr reaches⟩

theorem preOrder_forest [Preorder α] (lists : ListsChildren parent known children)
    (increasing : ∀ node, (children node).Pairwise (· < ·)) {levels : Nat}
    (shallow : ∀ node above, Lineage parent (some node) (node :: above) → above.length < levels)
    {roots : List α} (tops : ∀ root ∈ roots, known root ∧ parent root = none)
    (sorted : roots.Pairwise (· < ·)) :
    PreOrder parent (roots.flatMap (subtree children levels 0)) := by
  have shallow' : ∀ node above, Lineage parent (some node) (node :: above) →
      above.length < 0 + levels := by simpa using shallow
  apply PreOrder.flatMap (fun root member => ⟨_, lineage_of_root (tops root member).2⟩)
    (fun root member => (tops root member).2) sorted
  · intro root member
    obtain ⟨here, top⟩ := tops root member
    exact preOrder_subtree lists increasing shallow' here (lineage_of_root top) rfl
  · intro root member node within
    obtain ⟨here, top⟩ := tops root member
    exact (mem_subtree lists shallow' here (lineage_of_root top) rfl node).mp within

end Descend

end Lib
