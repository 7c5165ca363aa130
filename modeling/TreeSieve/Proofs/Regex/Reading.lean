import TreeSieve.Proofs.Regex.Meaning
import TreeSieve.Regex.Reader

/-!
# Proofs — Regex — Reading

How a pattern is read when it is put together from pieces.  A piece is read as a list of parts when
the reader, in front of any rest, goes on with these parts behind it (`ReadsAs`); pieces that are
read as parts can be put one after the other (`ReadsAs.append`).

The mark behind a repetition changes it, so a piece is only followed by a rest that begins with no
such mark, and begins with none itself.

* `read_of_readsAs`: a pattern that is read as parts of regular expressions is accepted, and is the
  sequence of these.
-/

namespace TreeSieve.Regex

/-- The rest begins with no mark that changes a repetition before it. -/
def Calm (rest : Text) : Prop := readGreed rest = (.greedy, rest)

theorem calm_nil : Calm [] := rfl

theorem calm_cons {c : Char} (hlazy : c ≠ '?') (hall : c ≠ '+') (rest : Text) : Calm (c :: rest) := by
  unfold Calm readGreed
  split <;> simp_all

/-- The reader takes the text for the parts, without switches, and goes on with the rest. -/
structure ReadsAs (t : Text) (ps : List Part) : Prop where
  calm : ∀ rest, Calm rest → Calm (t ++ rest)
  read : ∀ {n : Nat} {first : Bool} {parts : List Part} {g : Groups} {rest : Text}
    {r : Reads (Node × Groups × Text)}, Calm rest →
    (∀ fuel, rest.length < fuel →
      readSequence n fuel first false (ps.reverse ++ parts) g rest = r) →
    ∀ fuel, (t ++ rest).length < fuel → readSequence n fuel first false parts g (t ++ rest) = r

namespace ReadsAs

variable {t u : Text} {ps qs : List Part} {node : Node}

theorem nil : ReadsAs [] [] := ⟨fun _ h => h, fun _ h => h⟩

theorem append (ht : ReadsAs t ps) (hu : ReadsAs u qs) : ReadsAs (t ++ u) (ps ++ qs) where
  calm rest h := by
    rw [List.append_assoc]
    exact ht.calm _ (hu.calm rest h)
  read {n first parts g rest r} hrest h := by
    rw [List.append_assoc]
    refine ht.read (hu.calm rest hrest) (hu.read hrest ?_)
    rwa [List.reverse_append, List.append_assoc] at h

theorem flatMap {α : Type} {f : α → Text} {g : α → Part} {xs : List α}
    (h : ∀ x ∈ xs, ReadsAs (f x) [g x]) : ReadsAs (xs.flatMap f) (xs.map g) := by
  induction xs with
  | nil => exact nil
  | cons x xs ih =>
    exact (h x List.mem_cons_self).append (ih fun y hy => h y (List.mem_cons_of_mem x hy))

/-- A piece whose reading takes the fuel from `m + k` to `m + j`, no more than it has characters. -/
theorem of_steps (k j : Nat) (hk : k ≤ t.length + 1) (hj : k ≤ t.length + j)
    (hcalm : ∀ rest, Calm (t ++ rest))
    (h : ∀ n m first parts g rest, readSequence n (m + k) first false parts g (t ++ rest) =
      readSequence n (m + j) first false (ps.reverse ++ parts) g rest) : ReadsAs t ps where
  calm rest _ := hcalm rest
  read {n first parts g rest r} _ hr fuel hfuel := by
    rw [List.length_append] at hfuel
    obtain ⟨m, rfl⟩ : ∃ m, fuel = m + k := ⟨fuel - k, by omega⟩
    rw [h]
    exact hr _ (by omega)

/-- Any number of rounds of the part before the star. -/
theorem star (ht : ReadsAs t [.other node]) :
    ReadsAs (t ++ ['*']) [.repeated (.rounds 0 none .greedy node)] where
  calm rest _ := by
    rw [List.append_assoc]
    exact ht.calm _ rfl
  read {n first parts g rest r} hrest h := by
    have hstep : ∀ m, readSequence n (m + 1) first false (.other node :: parts) g ('*' :: rest) =
        readSequence n m first false (.repeated (.rounds 0 none (readGreed rest).1 node) :: parts)
          g (readGreed rest).2 := fun _ => rfl
    rw [List.append_assoc]
    refine ht.read rfl fun fuel hfuel => ?_
    obtain ⟨m, rfl⟩ : ∃ m, fuel = m + 1 := ⟨fuel - 1, by omega⟩
    refine (hstep m).trans ?_
    -- a calm rest leaves the repetition as it is
    rw [hrest]
    exact h m (Nat.lt_of_succ_lt_succ hfuel)

end ReadsAs

/-- Expressions without a look behind have none of changing width. -/
theorem Node.all_behindFixed {n : Node} (hn : n.isRegular = true) : n.all behindFixed = true := by
  induction n with
  | seq a b iha ihb | alt a b iha ihb =>
    obtain ⟨ha, hb⟩ := Bool.and_eq_true_iff.mp hn
    simp [Node.all, behindFixed, iha ha, ihb hb]
  | group _ _ ih | ahead _ _ ih => simp [Node.all, behindFixed, ih hn]
  | rounds _ _ _ _ ih =>
    simp [Node.all, behindFixed, ih (Bool.and_eq_true_iff.mp hn).2]
  | switched | atomic | behind | same | given => exact absurd hn Bool.false_ne_true
  | _ => rfl

/-- **A pattern that is read as parts** of regular expressions is accepted as their sequence. -/
theorem read_of_readsAs {t : Text} {ps : List Part} (h : ReadsAs t ps)
    (hreg : (Node.sequence (ps.map Part.node)).isRegular = true) :
    read {} t = .ok (.ofNode {} 0 [] (Node.sequence (ps.map Part.node))) := by
  have hend : ∀ fuel, ([] : Text).length < fuel →
      readSequence t.length fuel true false (ps.reverse ++ []) {} [] =
        .ok (Node.sequence (ps.map Part.node), {}, []) := by
    intro fuel hfuel
    obtain ⟨m, rfl⟩ : ∃ m, fuel = m + 1 := ⟨fuel - 1, Nat.eq_add_of_sub_eq hfuel rfl⟩
    simp [readSequence]
  have hseq := h.read calm_nil hend (3 * t.length + 4) (by rw [List.append_nil]; omega)
  rw [List.append_nil] at hseq
  have halts : readAlternatives t.length (3 * t.length + 5) true false [] {} t =
      .ok (Node.sequence (ps.map Part.node), {}, []) := by
    rw [readAlternatives, Bool.true_and, List.isEmpty_nil, hseq]
    rfl
  simp only [read, halts]
  change (if (!(Node.sequence (ps.map Part.node)).all behindFixed) = true then _ else _) = _
  rw [Node.all_behindFixed hreg]
  rfl

end TreeSieve.Regex
