import Packrat.Text.CaseFold

/-! Membership in sets of characters. Every edge passed on the way to a code point changes whether the
place lies inside, so what two sets give together has the members that their memberships call for. -/
namespace Packrat.Text.CodeSet

def Ascending (s : CodeSet) : Prop := s.edges.toList.Pairwise (· < ·)

def passes (code : Nat) (inside : Bool) : List Nat → Bool
  | [] => inside
  | edge :: rest => if edge ≤ code then passes code (!inside) rest else inside

variable {code : Nat} {inA inB : Bool} {a b : List Nat} {s t : CodeSet}

theorem passes_above (above : ∀ edge ∈ a.head?, code < edge) : passes code inA a = inA := by
  cases a with
  | nil => rfl
  | cons edge rest =>
    have : code < edge := above edge rfl
    rw [passes,if_neg (by omega)]

theorem passes_eq (code : Nat) (inside : Bool) (edges : List Nat) :
    passes code inside edges = (inside != ((edges.takeWhile (· ≤ code)).length % 2 == 1)) := by
  induction edges generalizing inside with
  | nil => simp [passes]
  | cons edge rest ih =>
    by_cases upTo : edge ≤ code
    · rw [passes,if_pos upTo,ih,List.takeWhile_cons_of_pos (by simpa using upTo),List.length_cons]
      rcases Nat.mod_two_eq_zero_or_one (rest.takeWhile (· ≤ code)).length with even | odd
      · rw [Nat.add_mod,even]
        cases inside <;> rfl
      · rw [Nat.add_mod,odd]
        cases inside <;> rfl
    · rw [passes,if_neg upTo,List.takeWhile_cons_of_neg (by simpa using upTo)]
      simp

section Rank

theorem getElem_le_iff {edges : List Nat} (ascending : edges.Pairwise (· < ·)) (i : Nat) (bound : i < edges.length) :
    edges[i] ≤ code ↔ i < (edges.takeWhile (· ≤ code)).length := by
  induction edges generalizing i with
  | nil => simp at bound
  | cons edge rest ih =>
    obtain ⟨first,ascending⟩ := List.pairwise_cons.mp ascending
    by_cases upTo : edge ≤ code
    · rw [List.takeWhile_cons_of_pos (by simpa using upTo),List.length_cons]
      cases i with
      | zero => simpa using upTo
      | succ i => simpa using ih ascending i (by simpa using bound)
    · rw [List.takeWhile_cons_of_neg (by simpa using upTo)]
      cases i with
      | zero => simpa using upTo
      | succ i =>
        have later : i < rest.length := by simpa using bound
        have := first rest[i] (List.getElem_mem later)
        simp
        omega

/-- Halving the distance comes to the number of edges at or below a code point. -/
theorem rank_eq {edges : Array Nat} (ascending : edges.toList.Pairwise (· < ·)) (steps low high : Nat)
    (within : high ≤ edges.size) (enough : high - low ≤ steps)
    (begun : low ≤ (edges.toList.takeWhile (· ≤ code)).length)
    (upTo : (edges.toList.takeWhile (· ≤ code)).length ≤ high) :
    rank edges code steps low high = (edges.toList.takeWhile (· ≤ code)).length := by
  induction steps generalizing low high with
  | zero =>
    rw [rank]
    omega
  | succ steps ih =>
    rw [rank]
    by_cases apart : low < high
    · have bound : (low + high) / 2 < edges.size := by omega
      have side := (getElem_le_iff ascending ((low + high) / 2) (by simpa using bound) : _ ≤ code ↔ _)
      rw [Array.getElem_toList] at side
      rw [if_pos apart]
      dsimp only
      rw [Array.getD_eq_getD_getElem?,Array.getElem?_eq_getElem bound,Option.getD_some]
      by_cases below : edges[(low + high) / 2] ≤ code
      · rw [if_pos below]
        exact ih _ _ within (by omega) (side.mp below) upTo
      · rw [if_neg below]
        exact ih _ _ (by omega) (by omega) begun (Nat.not_lt.mp (mt side.mpr below))
    · rw [if_neg apart]
      omega

theorem Ascending.containsCode_eq (ascending : s.Ascending) (code : Nat) :
    s.containsCode code = passes code false s.edges.toList := by
  have whole := (List.takeWhile_sublist (l := s.edges.toList) (p := fun edge => decide (edge ≤ code))).length_le
  rw [Array.length_toList] at whole
  rw [containsCode,rank_eq ascending _ _ _ (Nat.le_refl _) (by omega) (Nat.zero_le _) whole,passes_eq]
  simp

end Rank

section Sweep

/-- The first edge `x` of two sequences is crossed: which of them it belongs to changes whether the place
lies inside, and both go on with the edges above it. -/
structure Crossing (x : Nat) (inA inB : Bool) (a b : List Nat) (inA' inB' : Bool) (a' b' : List Nat) : Prop where
  mem : x ∈ a ++ b
  first : ∀ edge ∈ a ++ b, x ≤ edge
  above : ∀ edge ∈ a' ++ b', x < edge
  left : a' <:+ a
  right : b' <:+ b
  shorter : a'.length + b'.length < a.length + b.length
  passes : ∀ {code}, x ≤ code → passes code inA a = passes code inA' a' ∧ passes code inB b = passes code inB' b'

theorem sweep_cases (op : Bool → Bool → Bool) (steps : Nat) (inA inB : Bool) (ascendingA : a.Pairwise (· < ·))
    (ascendingB : b.Pairwise (· < ·)) : a = [] ∧ b = [] ∨ ∃ x inA' inB' a' b', Crossing x inA inB a b inA' inB' a' b' ∧
      sweep op (steps + 1) inA inB a b =
        if op inA inB == op inA' inB' then sweep op steps inA' inB' a' b' else x :: sweep op steps inA' inB' a' b' := by
  cases a with
  | nil =>
    cases b with
    | nil => exact .inl ⟨rfl,rfl⟩
    | cons y b =>
      have later := (List.pairwise_cons.mp ascendingB).1
      refine .inr ⟨y,inA,!inB,[],b,⟨by simp,?_,by simpa using later,List.suffix_refl _,List.suffix_cons y b,by simp,?_⟩,rfl⟩
      · simpa using fun edge member => Nat.le_of_lt (later edge member)
      · exact fun upTo => ⟨rfl,if_pos upTo⟩
  | cons x a =>
    have later := (List.pairwise_cons.mp ascendingA).1
    cases b with
    | nil =>
      refine .inr ⟨x,!inA,inB,a,[],⟨by simp,?_,by simpa using later,List.suffix_cons x a,List.suffix_refl _,by simp,?_⟩,rfl⟩
      · simpa using fun edge member => Nat.le_of_lt (later edge member)
      · exact fun upTo => ⟨if_pos upTo,rfl⟩
    | cons y b =>
      have later' := (List.pairwise_cons.mp ascendingB).1
      rw [sweep]
      rcases Nat.lt_trichotomy x y with less | rfl | greater
      · refine .inr ⟨x,!inA,inB,a,y :: b,⟨by simp,?_,?_,List.suffix_cons x a,List.suffix_refl _,by simp,?_⟩,if_pos less⟩
        · grind
        · grind
        · exact fun upTo => ⟨if_pos upTo,rfl⟩
      · refine .inr ⟨x,!inA,!inB,a,b,⟨by simp,?_,?_,List.suffix_cons x a,List.suffix_cons x b,by simp; omega,?_⟩,?_⟩
        · grind
        · grind
        · exact fun upTo => ⟨if_pos upTo,if_pos upTo⟩
        · simp
      · refine .inr ⟨y,inA,!inB,x :: a,b,⟨by simp,?_,?_,List.suffix_refl _,List.suffix_cons y b,by simp,?_⟩,?_⟩
        · grind
        · grind
        · exact fun upTo => ⟨rfl,if_pos upTo⟩
        · rw [if_neg (by omega),if_pos greater]

variable {op : Bool → Bool → Bool} {steps : Nat}

section

variable (ascendingA : a.Pairwise (· < ·)) (ascendingB : b.Pairwise (· < ·))

include ascendingA ascendingB

theorem lt_of_mem_sweep {low edge : Nat} (above : ∀ edge ∈ a ++ b, low < edge)
    (member : edge ∈ sweep op steps inA inB a b) : low < edge := by
  induction steps generalizing inA inB a b with
  | zero => simp [sweep] at member
  | succ steps ih =>
    rcases sweep_cases op steps inA inB ascendingA ascendingB with ⟨rfl,rfl⟩ | ⟨x,inA',inB',a',b',crossing,eq⟩
    · simp [sweep] at member
    · have first := above x crossing.mem
      have later := @ih inA' inB' a' b' (ascendingA.sublist crossing.left.sublist)
        (ascendingB.sublist crossing.right.sublist) fun edge member => Nat.lt_trans first (crossing.above edge member)
      rw [eq] at member
      split at member
      · exact later member
      · rcases List.mem_cons.mp member with rfl | member
        · exact first
        · exact later member

theorem sweep_ascending : (sweep op steps inA inB a b).Pairwise (· < ·) := by
  induction steps generalizing inA inB a b with
  | zero => simp [sweep]
  | succ steps ih =>
    rcases sweep_cases op steps inA inB ascendingA ascendingB with ⟨rfl,rfl⟩ | ⟨x,inA',inB',a',b',crossing,eq⟩
    · simp [sweep]
    · have ascendingA' := ascendingA.sublist crossing.left.sublist
      have ascendingB' := ascendingB.sublist crossing.right.sublist
      rw [eq]
      split
      · exact ih ascendingA' ascendingB'
      · exact List.pairwise_cons.mpr
          ⟨fun edge member => lt_of_mem_sweep ascendingA' ascendingB' crossing.above member,ih ascendingA' ascendingB'⟩

/-- The edges of a sweep lead inside exactly where `op` says so. -/
theorem passes_sweep (code : Nat) (enough : a.length + b.length ≤ steps) :
    passes code (op inA inB) (sweep op steps inA inB a b) = op (passes code inA a) (passes code inB b) := by
  induction steps generalizing inA inB a b with
  | zero =>
    obtain rfl : a = [] := List.length_eq_zero_iff.mp (by omega)
    obtain rfl : b = [] := List.length_eq_zero_iff.mp (by omega)
    rfl
  | succ steps ih =>
    rcases sweep_cases op steps inA inB ascendingA ascendingB with ⟨rfl,rfl⟩ | ⟨x,inA',inB',a',b',crossing,eq⟩
    · rfl
    · have shorter := crossing.shorter
      have later := @ih inA' inB' a' b' (ascendingA.sublist crossing.left.sublist)
        (ascendingB.sublist crossing.right.sublist) (by omega)
      rw [eq]
      by_cases upTo : x ≤ code
      · -- The edge is passed, and kept exactly if the outcome changes.
        obtain ⟨sameA,sameB⟩ := crossing.passes upTo
        rw [sameA,sameB,← later]
        split
        · rename_i same
          rw [beq_iff_eq.mp same]
        · rename_i differ
          have changed : (!op inA inB) = op inA' inB' := Bool.not_eq.mpr (mt beq_iff_eq.mpr differ)
          rw [passes,if_pos upTo,changed]
      · have before : code < x := Nat.lt_of_not_le upTo
        have aboveA : passes code inA a = inA := passes_above fun edge head =>
          Nat.lt_of_lt_of_le before (crossing.first edge (List.mem_append_left _ (List.mem_of_mem_head? head)))
        have aboveB : passes code inB b = inB := passes_above fun edge head =>
          Nat.lt_of_lt_of_le before (crossing.first edge (List.mem_append_right _ (List.mem_of_mem_head? head)))
        rw [aboveA,aboveB]
        split
        · refine passes_above fun edge head => Nat.lt_trans before ?_
          exact lt_of_mem_sweep (ascendingA.sublist crossing.left.sublist) (ascendingB.sublist crossing.right.sublist)
            crossing.above (List.mem_of_mem_head? head)
        · rw [passes,if_neg upTo]

end

variable (ascending : s.Ascending) (ascending' : t.Ascending)

include ascending ascending'

theorem Ascending.combine : (combine op s t).Ascending := by
  simpa [Ascending,CodeSet.combine] using sweep_ascending ascending ascending'

theorem containsCode_combine (outside : op false false = false) (code : Nat) :
    (combine op s t).containsCode code = op (s.containsCode code) (t.containsCode code) := by
  have swept : passes code (op false false) (sweep op _ false false _ _) = _ :=
    passes_sweep ascending ascending' code (Nat.le_refl _)
  rw [outside] at swept
  rw [(ascending.combine ascending').containsCode_eq,ascending.containsCode_eq,ascending'.containsCode_eq,← swept]
  simp [CodeSet.combine]

theorem containsCode_union (code : Nat) :
    (s.union t).containsCode code = (s.containsCode code || t.containsCode code) :=
  containsCode_combine ascending ascending' rfl code

end Sweep

theorem ascending_single (c : Char) : (single c).Ascending := by simp [Ascending,single]

theorem containsCode_single (c : Char) (code : Nat) : (single c).containsCode code = true ↔ c.toNat = code := by
  rw [(ascending_single c).containsCode_eq]
  simp only [single,passes]
  grind

theorem contains_single (c d : Char) : (single c).contains d = true ↔ c = d := by
  rw [contains,containsCode_single]
  exact Char.toNat_inj

/-- The union of single characters holds those characters. -/
theorem contains_unions_single (cs : List Char) (ascending : s.Ascending) :
    ((cs.map single).foldl union s).Ascending ∧
    ∀ d, ((cs.map single).foldl union s).contains d = true ↔ s.contains d = true ∨ d ∈ cs := by
  induction cs generalizing s with
  | nil => exact ⟨ascending,by simp⟩
  | cons c cs ih =>
    have joined : (s.union (single c)).Ascending := ascending.combine (ascending_single c)
    obtain ⟨ascending',members⟩ := ih joined
    refine ⟨ascending',fun d => ?_⟩
    have here := containsCode_union ascending (ascending_single c) d.toNat
    rw [List.map_cons,List.foldl_cons,members,List.mem_cons,eq_comm (a := d),← contains_single,← or_assoc]
    simp only [contains] at *
    rw [here,Bool.or_eq_true]

theorem contains_ofChars (cs : List Char) (d : Char) : (ofChars cs).contains d = true ↔ d ∈ cs := by
  cases cs with
  | nil => simp [ofChars,unions,contains,containsCode,CodeSet.empty,rank]
  | cons c cs =>
    rw [ofChars,List.map_cons,unions,(contains_unions_single cs (ascending_single c)).2,contains_single,List.mem_cons,
      eq_comm]

end Packrat.Text.CodeSet
