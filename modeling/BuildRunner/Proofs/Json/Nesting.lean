import BuildRunner.Proofs.Json.Reader
import BuildRunner.Proofs.Json.Record

set_option autoImplicit false

/-! # How deep a tree can be

A reader opens at most `depthLimit` frames inside each other. What stands in a frame is nested the
less the more frames are open around it, so no text is read as a tree that is nested deeper
(`depth_le_of_readWith`). This holds whatever is kept of the text: a value that is passed over may be
nested without limit, but then it is not in the tree.
-/

namespace BuildRunner.Json

/-! ## Depth -/

theorem depthItems_le_iff {js : List Json} {n : Nat} :
    depthItems js ≤ n ↔ ∀ j ∈ js, j.depth ≤ n := by
  induction js with
  | nil => simp [depthItems]
  | cons j js ih => rw [depthItems, Nat.max_le, ih, List.forall_mem_cons]

theorem depthMembers_eq (ms : List (String × Json)) :
    depthMembers ms = depthItems (ms.map Prod.snd) := by
  induction ms with
  | nil => rfl
  | cons m ms ih => rw [depthMembers, ih, List.map_cons, depthItems]

/-- A tree is one deeper than those directly below it. -/
theorem depth_le_succ_iff {j : Json} {n : Nat} :
    j.depth ≤ n + 1 ↔ ∀ k ∈ j.children, k.depth ≤ n := by
  cases j with
  | array js => rw [depth, Nat.add_le_add_iff_right, depthItems_le_iff, children]
  | object ms =>
      rw [depth, Nat.add_le_add_iff_right, depthMembers_eq, depthItems_le_iff, children]
  | _ => simp [depth, children]

/-- Only trees without others below them have no depth. -/
theorem children_eq_nil_of_depth {j : Json} (h : j.depth = 0) : j.children = [] := by
  cases j with
  | array js => cases h
  | object ms => cases h
  | _ => rfl

theorem depth_lt_of_mem {j k : Json} (h : k ∈ j.children) : k.depth < j.depth := by
  cases hj : j.depth with
  | zero =>
      rw [children_eq_nil_of_depth hj] at h
      cases h
  | succ n => exact Nat.lt_succ_of_le (depth_le_succ_iff.mp (Nat.le_of_eq hj) k h)

namespace Reader

variable {σ : Type} {sel : Selector σ} {s : σ} {v : Json} {x : Lexeme} {f : Frame σ}
  {frames : List (Frame σ)} {p : Progress σ}

/-! ## Frames -/

/-- **The frames are within the limit**: few enough are open wherever something is kept, and what
stands in a frame leaves room for all that are open around it. -/
def Within (sel : Selector σ) : List (Frame σ) → Prop
  | [] => True
  | f :: frames =>
    (sel.kept f.state = true → frames.length < depthLimit) ∧
      (∀ v ∈ f.values, v.depth ≤ depthLimit - (frames.length + 1)) ∧ Within sel frames

/-- What a closed frame stands for is one deeper than what it holds. -/
theorem depth_closed_le {n : Nat} (h : ∀ v ∈ f.values, v.depth ≤ n) : (closed f).depth ≤ n + 1 := by
  have same : (closed f).children = f.values.reverse := by
    cases f with
    | array s items => rfl
    | object s members key => simp [closed, children, Frame.values]
  rw [depth_le_succ_iff, same]
  exact fun v hv => h v (List.mem_reverse.mp hv)

/-- A value that is complete leaves room for the frames that are open, unless it is passed over. -/
theorem within_complete (h : Within sel frames)
    (room : frames = [] ∨ sel.kept s = true → v.depth ≤ depthLimit - frames.length) :
    (complete sel s v frames).All (Within sel) fun v => v.depth ≤ depthLimit := by
  cases frames with
  | nil => exact room (.inl rfl)
  | cons f frames =>
      obtain ⟨few, values, outer⟩ := h
      obtain ⟨g, result, -, state, held⟩ := complete_cons f frames
      rw [result]
      refine ⟨?_, ?_, outer⟩
      · rw [state]
        exact few
      · rw [held]
        -- A value that is not kept is not put into the frame.
        by_cases kept : sel.kept s = true
        · rw [if_pos kept, List.forall_mem_cons]
          exact ⟨room (.inr kept), values⟩
        · rw [if_neg kept]
          exact values

/-- **A lexeme keeps the frames within the limit.** -/
theorem Taken.within_limit (ht : Taken sel x frames p) (h : Within sel frames) :
    p.All (Within sel) fun v => v.depth ≤ depthLimit := by
  cases ht with
  | scalar s plain =>
      refine within_complete h fun _ => ?_
      rw [plain]
      exact Nat.zero_le _
  | @opened _ f e fresh room _ =>
      have empty : ∀ v ∈ f.values, v.depth ≤ depthLimit - (frames.length + 1) := by
        rw [fresh]
        exact List.forall_mem_nil _
      exact ⟨room, empty, h⟩
  | closed f rest =>
      obtain ⟨few, values, outer⟩ := h
      refine within_complete outer fun seen => ?_
      have deeper : (Reader.closed f).depth ≤ depthLimit - (rest.length + 1) + 1 := depth_closed_le values
      have open_lt : rest.length < depthLimit := by
        rcases seen with rfl | kept
        · exact Nat.succ_pos _
        · exact few kept
      omega
  | within e _ state values =>
      obtain ⟨few, held, outer⟩ := h
      refine ⟨?_, ?_, outer⟩
      · rw [state]
        exact few
      · rw [values]
        exact held

end Reader

/-- **No text is read as a tree deeper than the limit.** -/
theorem depth_le_of_readWith {σ : Type} {sel : Selector σ} {s : σ} {text : String} {v : Json}
    (h : readWith sel s text = .ok v) : v.depth ≤ depthLimit := by
  have start : Reader.Within sel (Reader.start s).frames := trivial
  exact Reader.run_keeps (P := Reader.Within sel) (Q := fun v => v.depth ≤ depthLimit)
    (fun _ _ _ ht h => ht.within_limit h) start (readWith_eq_ok.mp h)

end BuildRunner.Json
