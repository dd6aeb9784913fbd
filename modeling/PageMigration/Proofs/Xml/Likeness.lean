import Mathlib.Data.List.Forall2
import Mathlib.Tactic.SplitIfs
import PageMigration.Xml.Likeness

/-!
# Likeness, level by level

Two trees are alike if what counts of them is the same in document order.  Read level by level this
says: elements are alike if they have the same names and attributes, and if their children that
count are alike one by one; texts are alike if they are the same without the blanks around them.
The two readings agree because the marks of a tree show where each element ends.

## Main definitions

* `Xml.Node.same` : equality of trees, decided.
* `Xml.Node.isVisible` : the nodes that count.
* `Xml.Node.Like` : likeness, level by level.

## Main results

* `Xml.Node.induction` : induction on trees.
* `Xml.Node.like_of_marks_append` : two trees at the start of the same marks are alike.
* `Xml.Node.alike_iff_like` : nodes that count are alike exactly if they are so level by level.
* `Xml.Node.exists_of_firstNamed?` : what is found by a name is an element of that name.
* `Xml.Node.Like.rel_firstNamed?` : in trees that are alike, alike elements are found.
-/

namespace PageMigration.Xml.Node

/-! ### Trees -/

/-- What holds of an element if it holds of its children, and of all other nodes, holds of every
tree. -/
theorem induction {P : Node → Prop}
    (element : ∀ name attributes children,
      (∀ child ∈ children, P child) → P (.element name attributes children))
    (text : ∀ content, P (.text content)) (comment : ∀ content, P (.comment content))
    (instruction : ∀ target content, P (.instruction target content)) : ∀ a, P a
  | .element name attributes children =>
      element name attributes children fun child hchild =>
        have : sizeOf child < 1 + sizeOf name + sizeOf attributes + sizeOf children :=
          Nat.lt_of_lt_of_le (List.sizeOf_lt_of_mem hchild) (Nat.le_add_left _ _)
        induction element text comment instruction child
  | .text content => text content
  | .comment content => comment content
  | .instruction target content => instruction target content

mutual

/-- Whether two trees are the same. -/
def same : Node → Node → Bool
  | .element name attributes children, .element other others below =>
      name = other && attributes = others && sameAll children below
  | .text content, .text other => content = other
  | .comment content, .comment other => content = other
  | .instruction target content, .instruction other others => target = other && content = others
  | _, _ => false

/-- Whether trees are the same one by one. -/
def sameAll : List Node → List Node → Bool
  | [], [] => true
  | a :: as, b :: bs => a.same b && sameAll as bs
  | _, _ => false

end

theorem sameAll_iff {as bs : List Node} (h : ∀ a ∈ as, ∀ b, a.same b ↔ a = b) :
    sameAll as bs ↔ as = bs := by
  induction as generalizing bs with
  | nil => cases bs <;> simp [sameAll]
  | cons a as ih =>
      rw [List.forall_mem_cons] at h
      cases bs with
      | nil => simp [sameAll]
      | cons b bs => simp [sameAll, h.1 b, ih h.2]

theorem same_iff {a b : Node} : a.same b ↔ a = b := by
  induction a using Node.induction generalizing b with
  | element name attributes children ih =>
      cases b with
      | element => simp [same, sameAll_iff fun child hchild b => ih child hchild, and_assoc]
      | _ => simp [same]
  | text | comment | instruction => cases b <;> simp [same]

instance : DecidableEq Node := fun _ _ => decidable_of_iff _ same_iff

/-- Whether a node counts: an element does, and a text that is not blank. -/
def isVisible : Node → Bool
  | .element .. => true
  | .text content => !(Chars.trim content.toList).isEmpty
  | .comment _ => false
  | .instruction .. => false

/-- Likeness, level by level. -/
inductive Like : Node → Node → Prop where
  | element {name : String} {attributes : List (String × String)} {children others : List Node}
      (h : List.Forall₂ Like (children.filter isVisible) (others.filter isVisible)) :
      Like (.element name attributes children) (.element name attributes others)
  | text {content other : String} (h : Chars.trim content.toList = Chars.trim other.toList) :
      Like (.text content) (.text other)

/-! ### Marks -/

variable {a b : Node} {r r' : List Mark}

theorem marks_text {content : String} (h : (Node.text content).isVisible) :
    (Node.text content).marks = [.text (String.ofList (Chars.trim content.toList))] := by
  rw [isVisible, Bool.not_eq_true'] at h
  simp [marks, h]

theorem marks_of_not_isVisible (h : ¬ a.isVisible) : a.marks = [] := by
  cases a with
  | element name attributes children => exact absurd rfl h
  | text content =>
      rw [isVisible, Bool.not_eq_true', Bool.not_eq_false] at h
      simp [marks, h]
  | comment content => rfl
  | instruction target content => rfl

/-- The marks of a node that counts begin with its own mark, which ends no element. -/
theorem exists_marks_eq_cons (h : a.isVisible) :
    ∃ mark rest, a.marks = mark :: rest ∧ mark ≠ .closes := by
  cases a with
  | element name attributes children => exact ⟨.opens name attributes, _, by rw [marks], nofun⟩
  | text content => exact ⟨_, _, marks_text h, nofun⟩
  | comment content => cases h
  | instruction target content => cases h

theorem marksOfAll_append (as bs : List Node) :
    marksOfAll (as ++ bs) = marksOfAll as ++ marksOfAll bs := by
  induction as with
  | nil => rfl
  | cons a as ih => rw [List.cons_append, marksOfAll, marksOfAll, ih, List.append_assoc]

theorem marksOfAll_filter_isVisible (as : List Node) :
    marksOfAll (as.filter isVisible) = marksOfAll as := by
  induction as with
  | nil => rfl
  | cons a as ih =>
      by_cases h : a.isVisible
      · rw [List.filter_cons_of_pos h, marksOfAll, marksOfAll, ih]
      · rw [List.filter_cons_of_neg h, marksOfAll, marks_of_not_isVisible h, ih, List.nil_append]

/-! ### Both readings -/

/-- Children that count are alike one by one if their marks up to the end of their element are the
same. -/
theorem forall₂_like_of_marksOfAll_append {as bs : List Node}
    (hlike : ∀ a ∈ as, ∀ b, b.isVisible → ∀ r r', a.marks ++ r = b.marks ++ r' →
      Like a b ∧ r = r')
    (hvisible : ∀ a ∈ as, a.isVisible) (hvisible' : ∀ b ∈ bs, b.isVisible)
    (h : marksOfAll as ++ .closes :: r = marksOfAll bs ++ .closes :: r') :
    List.Forall₂ Like as bs ∧ r = r' := by
  induction as generalizing bs with
  | nil =>
      cases bs with
      | nil => exact ⟨.nil, (List.cons.inj h).2⟩
      | cons b bs =>
          obtain ⟨mark, rest, hmarks, hmark⟩ := exists_marks_eq_cons (hvisible' b (by simp))
          rw [marksOfAll, marksOfAll, hmarks] at h
          exact absurd (List.cons.inj h).1.symm hmark
  | cons a as ih =>
      rw [List.forall_mem_cons] at hlike hvisible
      cases bs with
      | nil =>
          obtain ⟨mark, rest, hmarks, hmark⟩ := exists_marks_eq_cons hvisible.1
          rw [marksOfAll, marksOfAll, hmarks] at h
          exact absurd (List.cons.inj h).1 hmark
      | cons b bs =>
          rw [List.forall_mem_cons] at hvisible'
          rw [marksOfAll, marksOfAll, List.append_assoc, List.append_assoc] at h
          obtain ⟨hfirst, hrest⟩ := hlike.1 b hvisible'.1 _ _ h
          obtain ⟨hothers, heq⟩ := ih hlike.2 hvisible.2 hvisible'.2 hrest
          exact ⟨.cons hfirst hothers, heq⟩

/-- Two nodes that count and that stand at the start of the same marks are alike, and the marks
after them are the same. -/
theorem like_of_marks_append (ha : a.isVisible) (hb : b.isVisible)
    (h : a.marks ++ r = b.marks ++ r') : Like a b ∧ r = r' := by
  induction a using Node.induction generalizing b r r' with
  | element name attributes children ih =>
      cases b with
      | element name' attributes' others =>
          rw [marks, marks, List.cons_append, List.cons_append, List.append_assoc,
            List.append_assoc] at h
          obtain ⟨hopens, hchildren⟩ := List.cons.inj h
          obtain ⟨rfl, rfl⟩ := Mark.opens.inj hopens
          rw [← marksOfAll_filter_isVisible children, ← marksOfAll_filter_isVisible others]
            at hchildren
          have hvisible (nodes : List Node) : ∀ node ∈ nodes.filter isVisible, node.isVisible :=
            fun node hnode => List.of_mem_filter hnode
          obtain ⟨hlike, heq⟩ := forall₂_like_of_marksOfAll_append
            (fun child hchild b hb r r' => ih child (List.mem_of_mem_filter hchild)
              (hvisible children child hchild) hb) (hvisible children) (hvisible others) hchildren
          exact ⟨.element hlike, heq⟩
      | text content =>
          rw [marks, marks_text hb] at h
          cases (List.cons.inj h).1
      | comment content => cases hb
      | instruction target content => cases hb
  | text content =>
      cases b with
      | element name attributes others =>
          rw [marks_text ha, marks] at h
          cases (List.cons.inj h).1
      | text other =>
          rw [marks_text ha, marks_text hb] at h
          obtain ⟨hmark, heq⟩ := List.cons.inj h
          exact ⟨.text (String.ofList_inj.mp (Mark.text.inj hmark)), heq⟩
      | comment content => cases hb
      | instruction target content => cases hb
  | comment content => cases ha
  | instruction target content => cases ha

theorem marksOfAll_eq_of_forall₂ {as bs : List Node} (h : List.Forall₂ Like as bs)
    (hmarks : ∀ a ∈ as, ∀ b, Like a b → a.marks = b.marks) : marksOfAll as = marksOfAll bs := by
  induction h with
  | nil => rfl
  | cons hfirst _ ih =>
      rw [List.forall_mem_cons] at hmarks
      rw [marksOfAll, marksOfAll, hmarks.1 _ hfirst, ih hmarks.2]

theorem Like.marks_eq (h : Like a b) : a.marks = b.marks := by
  induction a using Node.induction generalizing b with
  | element name attributes children ih =>
      cases h with
      | @element _ _ _ others hlike =>
          have hmarks := marksOfAll_eq_of_forall₂ hlike fun child hchild _ =>
            ih child (List.mem_of_mem_filter hchild)
          rw [marks, marks, ← marksOfAll_filter_isVisible children, hmarks,
            marksOfAll_filter_isVisible]
  | text content =>
      cases h with
      | text htrim => simp only [marks, htrim]
  | comment content => cases h
  | instruction target content => cases h

/-- **Likeness, level by level.** Nodes that count have the same marks exactly if they are alike
level by level. -/
theorem alike_iff_like (ha : a.isVisible) (hb : b.isVisible) : a.alike b ↔ Like a b := by
  rw [alike, decide_eq_true_eq]
  refine ⟨fun h => ?_, Like.marks_eq⟩
  have hmarks : a.marks ++ [] = b.marks ++ [] := by rw [h]
  exact (like_of_marks_append ha hb hmarks).1

/-! ### Elements of a name -/

theorem firstNamedOfAll?_eq_findSome? (name : String) (nodes : List Node) :
    firstNamedOfAll? name nodes = nodes.findSome? (firstNamed? name) := by
  induction nodes with
  | nil => rfl
  | cons node nodes ih =>
      rw [firstNamedOfAll?, ih, List.findSome?_cons]
      cases node.firstNamed? name <;> rfl

/-- The first element of a name is an element of that name. -/
theorem exists_of_firstNamed? {name : String} (h : a.firstNamed? name = some b) :
    ∃ attributes children, b = .element name attributes children := by
  induction a using Node.induction with
  | element n attributes children ih =>
      rw [firstNamed?] at h
      split_ifs at h with hname
      · exact ⟨attributes, children, hname ▸ (Option.some.inj h).symm⟩
      · rw [firstNamedOfAll?_eq_findSome?] at h
        obtain ⟨child, hchild, hfirst⟩ := List.exists_of_findSome?_eq_some h
        exact ih child hchild hfirst
  | text content => cases h
  | comment content => cases h
  | instruction target content => cases h

theorem firstNamed?_of_not_isVisible (h : ¬ a.isVisible) (name : String) :
    a.firstNamed? name = none := by
  cases a with
  | element n attributes children => exact absurd rfl h
  | text content => rfl
  | comment content => rfl
  | instruction target content => rfl

theorem firstNamedOfAll?_filter_isVisible (name : String) (nodes : List Node) :
    firstNamedOfAll? name (nodes.filter isVisible) = firstNamedOfAll? name nodes := by
  induction nodes with
  | nil => rfl
  | cons node nodes ih =>
      by_cases h : node.isVisible
      · rw [List.filter_cons_of_pos h, firstNamedOfAll?, firstNamedOfAll?, ih]
      · rw [List.filter_cons_of_neg h, firstNamedOfAll?, firstNamed?_of_not_isVisible h, ih,
          Option.none_or]

theorem rel_firstNamedOfAll? {name : String} {as bs : List Node} (h : List.Forall₂ Like as bs)
    (hfirst : ∀ a ∈ as, ∀ b, Like a b →
      Option.Rel Like (a.firstNamed? name) (b.firstNamed? name)) :
    Option.Rel Like (firstNamedOfAll? name as) (firstNamedOfAll? name bs) := by
  induction h with
  | nil => exact .none
  | @cons a b as bs hlike _ ih =>
      rw [List.forall_mem_cons] at hfirst
      have hrest := ih hfirst.2
      have hfound := hfirst.1 b hlike
      rw [firstNamedOfAll?, firstNamedOfAll?]
      generalize a.firstNamed? name = first, b.firstNamed? name = other at hfound ⊢
      cases hfound with
      | some hfound =>
          rw [Option.some_or, Option.some_or]
          exact .some hfound
      | none => exact hrest

/-- In trees that are alike, the first elements of a name are alike, or missing in both. -/
theorem Like.rel_firstNamed? (h : Like a b) (name : String) :
    Option.Rel Like (a.firstNamed? name) (b.firstNamed? name) := by
  induction a using Node.induction generalizing b with
  | element n attributes children ih =>
      cases h with
      | @element _ _ _ others hlike =>
          have hrest := rel_firstNamedOfAll? hlike fun child hchild _ hchildren =>
            ih child (List.mem_of_mem_filter hchild) hchildren
          rw [firstNamedOfAll?_filter_isVisible, firstNamedOfAll?_filter_isVisible] at hrest
          rw [firstNamed?, firstNamed?]
          split_ifs with hname
          · exact .some (.element hlike)
          · exact hrest
  | text content =>
      cases h with
      | text htrim => exact .none
  | comment content => cases h
  | instruction target content => cases h

theorem isVisible_of_firstNamed? {name : String} (h : a.firstNamed? name = some b) :
    b.isVisible := by
  obtain ⟨attributes, children, rfl⟩ := exists_of_firstNamed? h
  rfl

theorem map_marks_eq_of_rel {first other : Option Node} (h : Option.Rel Like first other) :
    first.map marks = other.map marks := by
  cases h with
  | some hlike => exact congrArg some hlike.marks_eq
  | none => rfl

theorem isVisible_iff_marks_ne_nil : a.isVisible ↔ a.marks ≠ [] := by
  refine ⟨fun h => ?_, fun h => ?_⟩
  · obtain ⟨mark, rest, hmarks, -⟩ := exists_marks_eq_cons h
    rw [hmarks]
    exact List.cons_ne_nil _ _
  · by_contra hinvisible
    exact h (marks_of_not_isVisible hinvisible)

/-- What counts of the first element of a name depends on what counts of the tree. -/
theorem map_marks_firstNamed?_congr (h : a.marks = b.marks) (name : String) :
    (a.firstNamed? name).map marks = (b.firstNamed? name).map marks := by
  by_cases ha : a.isVisible
  · have hb : b.isVisible := by rwa [isVisible_iff_marks_ne_nil, ← h, ← isVisible_iff_marks_ne_nil]
    have hlike := (alike_iff_like ha hb).mp (decide_eq_true h)
    exact map_marks_eq_of_rel (hlike.rel_firstNamed? name)
  · have hb : ¬ b.isVisible := by
      rwa [isVisible_iff_marks_ne_nil, ← h, ← isVisible_iff_marks_ne_nil]
    rw [firstNamed?_of_not_isVisible ha, firstNamed?_of_not_isVisible hb]

end PageMigration.Xml.Node
