import BuildRunner.Diagnostic.Numbering
import BuildRunner.Proofs.Text.Lined
import Mathlib.Data.List.Infix

set_option autoImplicit false

/-! # Child messages as text

A child message has an address in its forest: the place of its root among the roots and, for each
step down, its place among the children. Depth-first pre-order is the order of addresses, in which
an address comes before its extensions and a smaller place before a larger one.

`renderAll_listedFrom` says that a forest is rendered node by node in this order. Where no text looks
like the layout around it, the rendering can be read back: lines are told apart by line feeds
(`eq_of_chars`), the depth of a line is its indentation, and the level ends at the first colon before
a blank (`chars_inj`). The depths of the nodes in pre-order determine the forest (`eq_of_outline`).
-/

namespace BuildRunner

namespace Child

/-! ## Addresses -/

/-- The child message that is found from `c` on by going down to a child at every step. -/
def below? (c : Child) : List Nat → Option Child
  | [] => some c
  | i :: a => (c.children[i]?).bind fun d => d.below? a

/-- **The child message at an address** in a forest. -/
def at? (cs : List Child) : List Nat → Option Child
  | [] => none
  | i :: a => (cs[i]?).bind fun c => c.below? a

mutual

/-- A child message and those below it, each with its way down. -/
def listed : Child → List (List Nat × Child)
  | ⟨level, message, children⟩ => ([], ⟨level, message, children⟩) :: listedFrom 0 children
termination_by structural c => c

/-- **The nodes of a forest with their addresses**, where places are counted from `i` on. -/
def listedFrom (i : Nat) : List Child → List (List Nat × Child)
  | [] => []
  | c :: cs => (listed c).map (fun n => (i :: n.1, n.2)) ++ listedFrom (i + 1) cs
termination_by structural cs => cs

end

variable {cs : List Child} {c d : Child} {a : List Nat} {i : Nat} {n : List Nat × Child}

theorem listed_eq (c : Child) : listed c = ([], c) :: listedFrom 0 c.children := by
  cases c
  rfl

theorem mem_listedFrom : (a, c) ∈ listedFrom i cs ↔
    ∃ j b, a = (i + j) :: b ∧ ∃ d, cs[j]? = some d ∧ (b, c) ∈ listed d := by
  -- Places are counted from `i` on, so the place of a root in the list is the difference.
  induction cs generalizing i with
  | nil => simp [listedFrom]
  | cons e cs ih =>
      rw [listedFrom, List.mem_append, ih]
      constructor
      · rintro (first | ⟨j, b, rfl, d, there, under⟩)
        · obtain ⟨n, under, same⟩ := List.mem_map.mp first
          obtain ⟨rfl, rfl⟩ := Prod.mk.inj same
          exact ⟨0, n.1, rfl, e, rfl, under⟩
        · exact ⟨j + 1, b, by rw [Nat.add_right_comm, Nat.add_assoc], d, there, under⟩
      · rintro ⟨_ | j, b, rfl, d, there, under⟩
        · obtain rfl : e = d := by simpa using there
          exact .inl (List.mem_map.mpr ⟨(b, c), under, rfl⟩)
        · exact .inr ⟨j, b, by rw [Nat.add_right_comm, Nat.add_assoc], d, there, under⟩

theorem cons_mem_listedFrom :
    (i :: a, c) ∈ listedFrom 0 cs ↔ ∃ d, cs[i]? = some d ∧ (a, c) ∈ listed d := by
  rw [mem_listedFrom]
  constructor
  · rintro ⟨j, b, same, d, there, under⟩
    obtain ⟨rfl, rfl⟩ : i = j ∧ a = b := by simpa using same
    exact ⟨d, there, under⟩
  · rintro ⟨d, there, under⟩
    exact ⟨i, a, by rw [Nat.zero_add], d, there, under⟩

/-- Addresses start with a place. -/
theorem exists_of_mem_listedFrom (h : n ∈ listedFrom i cs) : ∃ j b, i ≤ j ∧ n.1 = j :: b := by
  obtain ⟨j, b, same, -⟩ := mem_listedFrom.mp h
  exact ⟨i + j, b, Nat.le_add_right i j, same⟩

theorem nil_notMem_listedFrom : ([], c) ∉ listedFrom i cs := by
  intro there
  obtain ⟨j, b, -, same⟩ := exists_of_mem_listedFrom there
  cases same

/-- What is listed is what is found on the way down. -/
theorem mem_listed : (a, c) ∈ listed d ↔ d.below? a = some c := by
  induction a generalizing d with
  | nil => simp [listed_eq, nil_notMem_listedFrom, below?, eq_comm]
  | cons i a ih =>
      rw [listed_eq, List.mem_cons, cons_mem_listedFrom, below?, Option.bind_eq_some_iff]
      simp only [ih, Prod.mk.injEq, reduceCtorEq, false_and, false_or]

/-- **Every node is listed** with its address. -/
theorem mem_listedFrom_zero : (a, c) ∈ listedFrom 0 cs ↔ at? cs a = some c := by
  cases a with
  | nil => simp [nil_notMem_listedFrom, at?]
  | cons i a => simp [cons_mem_listedFrom, mem_listed, at?, Option.bind_eq_some_iff]

mutual

theorem pairwise_listed : ∀ c : Child, (listed c).Pairwise fun n n' => n.1 < n'.1
  | ⟨_, _, children⟩ => by
    rw [listed_eq, List.pairwise_cons]
    refine ⟨fun n hn => ?_, pairwise_listedFrom 0 children⟩
    obtain ⟨j, b, -, same⟩ := exists_of_mem_listedFrom hn
    rw [same]
    exact List.nil_lt_cons j b

/-- **The nodes are listed in pre-order**, each once. -/
theorem pairwise_listedFrom (i : Nat) :
    ∀ cs : List Child, (listedFrom i cs).Pairwise fun n n' => n.1 < n'.1
  | [] => .nil
  | c :: cs => by
    rw [listedFrom, List.pairwise_append, List.pairwise_map]
    refine ⟨(pairwise_listed c).imp fun below => List.cons_lt_cons_self.mpr below,
      pairwise_listedFrom (i + 1) cs, fun n hn n' hn' => ?_⟩
    obtain ⟨m, -, rfl⟩ := List.mem_map.mp hn
    obtain ⟨j, b, later, same⟩ := exists_of_mem_listedFrom hn'
    rw [same]
    exact List.cons_lt_cons_iff.mpr (.inl later)

end

/-! ## Lines -/

def line (depth : Nat) (c : Child) : String :=
  "\n" ++ String.join (List.replicate depth "  ") ++ c.level ++ ": " ++ c.message

theorem toList_indentation (depth : Nat) :
    (String.join (List.replicate depth "  ")).toList = List.replicate (2 * depth) ' ' := by
  induction depth with
  | zero => rfl
  | succ depth ih =>
      rw [List.replicate_succ, String.join_cons, String.toList_append, ih, Nat.mul_add]
      rfl

theorem indent_eq (depth : Nat) : indent depth = String.join (List.replicate depth "  ") := by
  rw [← String.toList_inj, toList_indentation, indent, String.toList_ofList]

mutual

theorem render_listed (depth : Nat) : ∀ c : Child,
    render depth c = String.join ((listed c).map fun n => line (depth + n.1.length) n.2)
  | ⟨level, message, children⟩ => by
    rw [listed_eq, List.map_cons, String.join_cons, render, renderAll_listedFrom depth 0 children,
      indent_eq]
    rfl

/-- **A forest is rendered node by node.** -/
theorem renderAll_listedFrom (depth i : Nat) : ∀ cs : List Child,
    renderAll (depth + 1) cs =
      String.join ((listedFrom i cs).map fun n => line (depth + n.1.length) n.2)
  | [] => rfl
  | c :: cs => by
    rw [renderAll, listedFrom, List.map_append, String.join_append, render_listed (depth + 1) c,
      renderAll_listedFrom depth (i + 1) cs, List.map_map]
    congr 3
    funext n
    -- The place of the root is one more number of the address, and one more step of depth.
    simp only [Function.comp, List.length_cons]
    congr 1
    omega

end

/-! ## Reading a rendering -/

/-- A node as its line shows it: its depth, its level and its message. -/
abbrev Shown := Nat × String × String

/-- **The nodes in pre-order**, as the lines show them; `depth` is that above the roots. -/
def outline (depth : Nat) (ns : List (List Nat × Child)) : List Shown :=
  ns.map fun n => (depth + n.1.length, n.2.level, n.2.message)

theorem outline_cons (depth i : Nat) (c : Child) (cs : List Child) :
    outline depth (listedFrom i (c :: cs)) = (depth + 1, c.level, c.message) ::
      (outline (depth + 1) (listedFrom 0 c.children) ++ outline depth (listedFrom (i + 1) cs)) := by
  simp [outline, listedFrom, listed_eq, Nat.add_assoc, Nat.add_comm 1]

/-- Whether what follows a forest stands no deeper than `depth`. -/
def Shallow (depth : Nat) (rest : List Shown) : Prop := ∀ x ∈ rest.head?, x.1 ≤ depth

theorem shallow_outline {depth : Nat} {rest : List Shown} (h : Shallow depth rest) (i : Nat)
    (cs : List Child) : Shallow (depth + 1) (outline depth (listedFrom i cs) ++ rest) := by
  cases cs with
  | nil => exact fun x hx => Nat.le_succ_of_le (h x hx)
  | cons c cs =>
      rw [outline_cons]
      intro x hx
      obtain rfl : (depth + 1, c.level, c.message) = x := Option.some.inj hx
      exact Nat.le_refl _

/-- What is shallow does not start like a forest. -/
theorem Shallow.ne {depth i : Nat} {rest rest' : List Shown} (h : Shallow depth rest) (c : Child)
    (cs : List Child) : rest ≠ outline depth (listedFrom i (c :: cs)) ++ rest' := by
  rintro rfl
  rw [outline_cons] at h
  exact absurd (h _ rfl) (Nat.not_succ_le_self depth)

/-- **The depths in pre-order determine the forest**: the children of a node are what follows it and
stands deeper. -/
theorem eq_of_outline : ∀ (cs cs' : List Child) (depth i j : Nat) (rest rest' : List Shown),
    Shallow depth rest → Shallow depth rest' →
    outline depth (listedFrom i cs) ++ rest = outline depth (listedFrom j cs') ++ rest' →
    cs = cs' ∧ rest = rest'
  | [], [], _, _, _, _, _, _, _, same => ⟨rfl, same⟩
  | [], c :: cs, _, _, _, _, _, shallow, _, same => absurd same (shallow.ne c cs)
  | c :: cs, [], _, _, _, _, _, _, shallow, same => absurd same.symm (shallow.ne c cs)
  | ⟨level, message, children⟩ :: cs, ⟨level', message', children'⟩ :: cs', depth, i, j, rest, rest',
      shallow, shallow', same => by
    rw [outline_cons, outline_cons, List.cons_append, List.cons_append, List.append_assoc,
      List.append_assoc] at same
    obtain ⟨first, others⟩ := List.cons.inj same
    obtain ⟨rfl, rfl⟩ : level = level' ∧ message = message' := by simpa using first
    -- The next root, if there is one, is not deep enough to be a child.
    obtain ⟨rfl, behind⟩ := eq_of_outline children children' (depth + 1) 0 0 _ _
      (shallow_outline shallow (i + 1) cs) (shallow_outline shallow' (j + 1) cs') others
    obtain ⟨rfl, last⟩ := eq_of_outline cs cs' depth (i + 1) (j + 1) rest rest' shallow shallow'
      behind
    exact ⟨rfl, last⟩

/-! ## Plain texts -/

/-- **Texts that do not look like the layout**: no line feeds, and a level neither starts with a
blank nor holds a colon before a blank. -/
structure Plain (level message : String) : Prop where
  level_line : '\n' ∉ level.toList
  message_line : '\n' ∉ message.toList
  start : level.toList.head? ≠ some ' '
  colon : ¬ [':', ' '] <:+: level.toList

instance (level message : String) : Decidable (Plain level message) :=
  decidable_of_iff
    ('\n' ∉ level.toList ∧ '\n' ∉ message.toList ∧ level.toList.head? ≠ some ' ' ∧
      ¬ [':', ' '] <:+: level.toList)
    ⟨fun ⟨l, m, s, c⟩ => ⟨l, m, s, c⟩, fun ⟨l, m, s, c⟩ => ⟨l, m, s, c⟩⟩

def Shown.chars (x : Shown) : List Char :=
  List.replicate (2 * x.1) ' ' ++ (x.2.1.toList ++ ':' :: ' ' :: x.2.2.toList)

theorem toList_line (depth : Nat) (c : Child) :
    (line depth c).toList = '\n' :: Shown.chars (depth, c.level, c.message) := by
  simp only [line, Shown.chars, String.toList_append, toList_indentation, List.append_assoc]
  rfl

/-- The first character of another kind ends a run. -/
theorem replicate_append_inj {α : Type} {a : α} {m n : Nat} {xs ys : List α}
    (hx : xs.head? ≠ some a) (hy : ys.head? ≠ some a)
    (same : List.replicate m a ++ xs = List.replicate n a ++ ys) : m = n ∧ xs = ys := by
  induction m generalizing n with
  | zero =>
      cases n with
      | zero => exact ⟨rfl, same⟩
      | succ n => exact absurd (congrArg List.head? same) hx
  | succ m ih =>
      cases n with
      | zero => exact absurd (congrArg List.head? same).symm hy
      | succ n =>
          obtain ⟨rfl, rest⟩ := ih (List.cons.inj same).2
          exact ⟨rfl, rest⟩

/-- **The first colon before a blank** is in one place. -/
theorem colon_unique {l l' m m' : List Char} (h : ¬ [':', ' '] <:+: l) (h' : ¬ [':', ' '] <:+: l')
    (same : l ++ ':' :: ' ' :: m = l' ++ ':' :: ' ' :: m') : l = l' ∧ m = m' := by
  -- If one of the two goes further, it holds the colon of the other.
  have further {k k' : List Char} {n n' : List Char} (hk : ¬ [':', ' '] <:+: k) (a : List Char)
      (longer : k = k' ++ a) (rest : ':' :: ' ' :: n' = a ++ ':' :: ' ' :: n) : a = [] := by
    match a, rest with
    | [], _ => rfl
    | [_], rest => simp at rest
    | _ :: _ :: a, rest =>
        obtain ⟨rfl, rfl, -⟩ := by simpa using rest
        exact absurd ⟨k', a, by simp [longer]⟩ hk
  rcases List.append_eq_append_iff.mp same with ⟨a, longer, rest⟩ | ⟨a, longer, rest⟩
  · obtain rfl := further h' a longer rest
    simp_all
  · obtain rfl := further h a longer rest
    simp_all

theorem chars_inj {x y : Shown} (hx : Plain x.2.1 x.2.2) (hy : Plain y.2.1 y.2.2)
    (same : x.chars = y.chars) : x = y := by
  have starts {z : Shown} (hz : Plain z.2.1 z.2.2) :
      (z.2.1.toList ++ ':' :: ' ' :: z.2.2.toList).head? ≠ some ' ' := by
    have start := hz.start
    cases h : z.2.1.toList <;> simp_all
  obtain ⟨depth, same⟩ := replicate_append_inj (starts hx) (starts hy) same
  obtain ⟨level, message⟩ := colon_unique hx.colon hy.colon same
  exact Prod.ext (by omega) (Prod.ext (String.toList_inj.mp level) (String.toList_inj.mp message))

theorem notMem_chars {x : Shown} (h : Plain x.2.1 x.2.2) : '\n' ∉ x.chars := by
  simp [Shown.chars, h.level_line, h.message_line]

/-- **Lines are told apart by their line feeds**, if all texts are plain. -/
theorem eq_of_chars {xs ys : List Shown} (hx : ∀ x ∈ xs, Plain x.2.1 x.2.2)
    (hy : ∀ y ∈ ys, Plain y.2.1 y.2.2)
    (same : xs.flatMap (·.chars ++ ['\n']) = ys.flatMap (·.chars ++ ['\n'])) : xs = ys := by
  induction xs generalizing ys with
  | nil =>
      cases ys with
      | nil => rfl
      | cons y ys => simp at same
  | cons x xs ih =>
      cases ys with
      | nil => simp at same
      | cons y ys =>
          obtain ⟨plain, others⟩ := List.forall_mem_cons.mp hx
          obtain ⟨plain', others'⟩ := List.forall_mem_cons.mp hy
          simp only [List.flatMap_cons, List.append_assoc, List.singleton_append] at same
          obtain ⟨first, rest⟩ := Line.first_unique (notMem_chars plain) (notMem_chars plain') same
          rw [chars_inj plain plain' first, ih others others' rest]

/-- A rendering, and a line feed after it that ends its last line. -/
theorem toList_renderAll (cs : List Child) : (renderAll 1 cs).toList ++ ['\n'] =
    '\n' :: (outline 0 (listedFrom 0 cs)).flatMap (·.chars ++ ['\n']) := by
  rw [renderAll_listedFrom 0 0, outline]
  induction listedFrom 0 cs with
  | nil => rfl
  | cons n ns ih =>
      rw [List.map_cons, String.join_cons, String.toList_append, List.append_assoc, ih, toList_line]
      simp

/-- **A forest whose texts are plain.** -/
def IsPlain (cs : List Child) : Prop := ∀ a c, at? cs a = some c → Plain c.level c.message

theorem IsPlain.outline (h : IsPlain cs) :
    ∀ x ∈ outline 0 (listedFrom 0 cs), Plain x.2.1 x.2.2 := by
  intro x hx
  obtain ⟨⟨a, c⟩, hn, rfl⟩ := List.mem_map.mp hx
  exact h a c (mem_listedFrom_zero.mp hn)

end Child

/-! ## Every forest -/

/-- **A forest is rendered in pre-order, and nothing is lost.**

The text is that of all nodes, each once and in the order of their addresses: a line feed, two blanks
for each number of the address, the level and, behind a colon and a blank, the message. If no text
holds a line feed, and no level starts with a blank or holds a colon before a blank, then forests
with the same text are the same. -/
theorem forest_is_rendered :
    (∀ cs : List Child, ∃ nodes : List (List Nat × Child),
      (nodes.Pairwise fun n n' => n.1 < n'.1) ∧
      (∀ a c, (a, c) ∈ nodes ↔ Child.at? cs a = some c) ∧
      Child.renderAll 1 cs = String.join (nodes.map fun n =>
        "\n" ++ String.join (List.replicate n.1.length "  ") ++ n.2.level ++ ": " ++ n.2.message)) ∧
    (∀ cs cs' : List Child, Child.IsPlain cs → Child.IsPlain cs' →
      Child.renderAll 1 cs = Child.renderAll 1 cs' → cs = cs') := by
  refine ⟨fun cs => ⟨Child.listedFrom 0 cs, Child.pairwise_listedFrom 0 cs,
    fun a c => Child.mem_listedFrom_zero, ?_⟩, fun cs cs' plain plain' same => ?_⟩
  · rw [Child.renderAll_listedFrom 0 0]
    simp only [Nat.zero_add]
    rfl
  · have text := Child.toList_renderAll cs
    rw [same, Child.toList_renderAll] at text
    have outline := Child.eq_of_chars plain.outline plain'.outline (List.cons.inj text).2.symm
    have shallow : Child.Shallow 0 [] := nofun
    exact (Child.eq_of_outline cs cs' 0 0 0 [] [] shallow shallow (by rw [outline])).1

/-- Two messages one below the other are told from the same ones side by side. -/
theorem forest_is_rendered_apart :
    let nested : List Child := [⟨"note", "a: b", [⟨"help:", " c", []⟩]⟩, ⟨"", "", []⟩]
    let flat : List Child := [⟨"note", "a: b", []⟩, ⟨"help:", " c", []⟩, ⟨"", "", []⟩]
    Child.IsPlain nested ∧ Child.IsPlain flat ∧ Child.renderAll 1 nested ≠ Child.renderAll 1 flat := by
  intro nested flat
  have plain {cs : List Child} (h : ∀ n ∈ Child.listedFrom 0 cs, Child.Plain n.2.level n.2.message) :
      Child.IsPlain cs := fun a c there => h (a, c) (Child.mem_listedFrom_zero.mpr there)
  have first : Child.IsPlain nested := plain (by decide +kernel)
  have second : Child.IsPlain flat := plain (by decide +kernel)
  refine ⟨first, second, fun same => ?_⟩
  have forests := forest_is_rendered.2 nested flat first second same
  exact absurd (congrArg List.length forests) (by decide)

end BuildRunner
