import DnsSteering.Fault
import DnsSteering.Proofs.Text.Loose

namespace DnsSteering.Json

-- No key stands twice in an object. `double` says which doubles there may be.
inductive Keyed (double : Binary64 → Prop) : Json → Prop where
  | null : Keyed double .null
  | bool (b : Bool) : Keyed double (.bool b)
  | int (n : Int) : Keyed double (.int n)
  | float {x : Binary64} (allowed : double x) : Keyed double (.float x)
  | str {t : LooseText} (unpaired : t.Unpaired) : Keyed double (.str t)
  | arr {items : List Json} (each : ∀ item ∈ items, Keyed double item) : Keyed double (.arr items)
  | obj {fields : List (LooseText × Json)} (once : (fields.map (·.1)).Nodup)
      (unpaired : ∀ f ∈ fields, f.1.Unpaired) (each : ∀ f ∈ fields, Keyed double f.2) :
      Keyed double (.obj fields)

theorem setField_new {key : LooseText} {value : Json} {fields : List (LooseText × Json)}
    (new : key ∉ fields.map (·.1)) : setField key value fields = fields ++ [(key, value)] := by
  induction fields with
  | nil => rfl
  | cons f fields ih =>
    obtain ⟨k, v⟩ := f
    simp only [List.map_cons, List.mem_cons, not_or] at new
    have other : ¬ k = key := fun same => new.1 same.symm
    simp [setField, other, ih new.2]

-- Fields that an object may have.
structure KeyedFields (fields : List (LooseText × Json)) : Prop where
  once : (fields.map (·.1)).Nodup
  unpaired : ∀ f ∈ fields, f.1.Unpaired
  each : ∀ f ∈ fields, Keyed (fun _ => True) f.2

theorem mem_setField {key : LooseText} {value : Json} {fields : List (LooseText × Json)}
    {f : LooseText × Json} (member : f ∈ setField key value fields) : f = (key, value) ∨ f ∈ fields := by
  induction fields with
  | nil => exact .inl (List.mem_singleton.mp member)
  | cons g fields ih =>
    obtain ⟨k, v⟩ := g
    unfold setField at member
    split at member
    · rename_i same
      rcases List.mem_cons.mp member with rfl | later
      · exact .inl (by rw [same])
      · exact .inr (List.mem_cons_of_mem _ later)
    · rcases List.mem_cons.mp member with rfl | later
      · exact .inr (List.mem_cons_self ..)
      · exact (ih later).imp_right (List.mem_cons_of_mem _)

theorem nodup_setField {key : LooseText} {value : Json} {fields : List (LooseText × Json)}
    (once : (fields.map (·.1)).Nodup) : ((setField key value fields).map (·.1)).Nodup := by
  induction fields with
  | nil => simp [setField]
  | cons g fields ih =>
    obtain ⟨k, v⟩ := g
    rw [List.map_cons, List.nodup_cons] at once
    unfold setField
    split
    · exact List.nodup_cons.mpr once
    · rename_i other
      refine List.nodup_cons.mpr ⟨?_, ih once.2⟩
      intro listed
      obtain ⟨f, member, same⟩ := List.mem_map.mp listed
      rcases mem_setField member with rfl | old
      · exact other same.symm
      · exact once.1 (List.mem_map.mpr ⟨f, old, same⟩)

theorem KeyedFields.set {fields : List (LooseText × Json)} (keyed : KeyedFields fields) {key : LooseText}
    (unpaired : key.Unpaired) {value : Json} (fits : Keyed (fun _ => True) value) :
    KeyedFields (setField key value fields) := by
  refine ⟨nodup_setField keyed.once, ?_, ?_⟩
  · intro f member
    rcases mem_setField member with rfl | old
    · exact unpaired
    · exact keyed.unpaired f old
  · intro f member
    rcases mem_setField member with rfl | old
    · exact fits
    · exact keyed.each f old

variable {cs rest : List Char} {v : Json}

theorem isHigh_letterOf {n : Nat} {l : LooseText.Letter} (pair : LooseText.Pair (letterOf n) l) :
    isHigh n = true := by
  cases alone : letterOf n with
  | inl c =>
    rw [alone] at pair
    exact pair.elim
  | inr high =>
    cases l with
    | inl c => exact (LooseText.not_pair_char _ c pair).elim
    | inr low =>
      rw [alone] at pair
      rw [← point_letterOf alone, isHigh_point]
      exact decide_eq_true pair.1

theorem isLow_letterOf {n : Nat} {l : LooseText.Letter} (pair : LooseText.Pair l (letterOf n)) :
    isLow n = true := by
  cases alone : letterOf n with
  | inl c =>
    rw [alone] at pair
    exact (LooseText.not_pair_char _ c pair).elim
  | inr low =>
    cases l with
    | inl c => exact pair.elim
    | inr high =>
      rw [alone] at pair
      rw [← point_letterOf alone, isLow_point]
      exact decide_eq_true pair.2

-- Units that make a character are joined, so no two halves that do are left side by side.
theorem joinUnits_unpaired (ns : List Nat) :
    (joinUnits ns).IsChain fun l m => ¬ LooseText.Pair l m := by
  induction ns using joinUnits.induct with
  | case1 => exact .nil
  | case2 n => exact .singleton _
  | case3 n m rest joined ih =>
    rw [joinUnits, if_pos joined]
    exact ih.cons fun l _ pair => pair
  | case4 n m rest single ih =>
    rw [joinUnits, if_neg single]
    refine ih.cons fun l next pair => ?_
    have high := isHigh_letterOf pair
    cases rest with
    | nil =>
      cases next
      exact single (by rw [high, isLow_letterOf pair]; rfl)
    | cons o rest =>
      unfold joinUnits at next
      split at next
      · cases next
        exact LooseText.not_pair_char _ _ pair
      · cases next
        exact single (by rw [high, isLow_letterOf pair]; rfl)

theorem readString_unpaired {cs rest : List Char} {t : LooseText} (done : readString cs = .ok (t, rest)) :
    t.Unpaired := by
  obtain ⟨r, _, equal⟩ := ok_of_map done
  cases equal
  unfold LooseText.Unpaired
  rw [LooseText.letters_ofLetters]
  exact joinUnits_unpaired r.1

theorem readUnsigned_keyed {negative : Bool} (done : readUnsigned negative cs = some (v, rest)) :
    Keyed (fun _ => True) v := by
  unfold readUnsigned at done
  split at done
  · cases done
  · simp only at done
    split at done
    · cases done
      exact .int _
    · cases done
      exact .float trivial

theorem readPlain_keyed (done : readPlain cs = .ok (v, rest)) : Keyed (fun _ => True) v := by
  unfold readPlain at done
  split at done
  case h_7 =>
    cases read : readNumber cs with
    | none => simp [read] at done
    | some r =>
      simp only [read, Except.ok.injEq] at done
      subst done
      unfold readNumber at read
      split at read <;> exact readUnsigned_keyed read
  all_goals
    cases done
    constructor
  all_goals trivial

-- What is read with so much fuel has its keys once.
structure ReadsKeyed (fuel : Nat) : Prop where
  value : ∀ {cs v rest}, readValue fuel cs = .ok (v, rest) → Keyed (fun _ => True) v
  items : ∀ {cs items rest}, readItems fuel cs = .ok (items, rest) →
    ∀ item ∈ items, Keyed (fun _ => True) item
  fields : ∀ {before cs fields rest}, KeyedFields before →
    readFields fuel before cs = .ok (fields, rest) → KeyedFields fields

theorem ReadsKeyed.nextValue {fuel : Nat} (reads : ReadsKeyed fuel)
    (done : readValue (fuel + 1) cs = .ok (v, rest)) : Keyed (fun _ => True) v := by
  have none : KeyedFields [] := ⟨List.nodup_nil, by simp, by simp⟩
  unfold readValue at done
  split at done
  · obtain ⟨r, read, equal⟩ := ok_of_map done
    cases equal
    exact .str (readString_unpaired read)
  · split at done
    · cases done
      exact .obj none.once none.unpaired none.each
    · obtain ⟨r, read, equal⟩ := ok_of_map done
      cases equal
      have keyed := reads.fields none read
      exact .obj keyed.once keyed.unpaired keyed.each
  · split at done
    · cases done
      exact .arr (by simp)
    · obtain ⟨r, read, equal⟩ := ok_of_map done
      cases equal
      exact .arr (reads.items read)
  · exact readPlain_keyed done

theorem ReadsKeyed.nextItems {fuel : Nat} {items : List Json} (reads : ReadsKeyed fuel)
    (done : readItems (fuel + 1) cs = .ok (items, rest)) :
    ∀ item ∈ items, Keyed (fun _ => True) item := by
  unfold readItems at done
  split at done
  · cases done
  · rename_i first left read
    split at done
    · cases done
      intro item member
      rw [List.mem_singleton.mp member]
      exact reads.value read
    · obtain ⟨r, more, equal⟩ := ok_of_map done
      cases equal
      intro item member
      rcases List.mem_cons.mp member with rfl | later
      · exact reads.value read
      · exact reads.items more item later
    · cases done

theorem ReadsKeyed.nextFields {fuel : Nat} {before fields : List (LooseText × Json)}
    (reads : ReadsKeyed fuel) (keyed : KeyedFields before)
    (done : readFields (fuel + 1) before cs = .ok (fields, rest)) : KeyedFields fields := by
  unfold readFields at done
  split at done
  · split at done
    · cases done
    · rename_i key _ named
      have unpaired : key.Unpaired := readString_unpaired named
      split at done
      · split at done
        · cases done
        · rename_i value left read
          split at done
          · cases done
            exact keyed.set unpaired (reads.value read)
          · exact reads.fields (keyed.set unpaired (reads.value read)) done
          · cases done
      · cases done
  · cases done

theorem reads_keyed (fuel : Nat) : ReadsKeyed fuel := by
  induction fuel with
  | zero =>
    refine ⟨?_, ?_, ?_⟩
    · intro cs v rest done
      cases done
    · intro cs items rest done
      cases done
    · intro before cs fields rest _ done
      cases done
  | succ fuel ih => exact ⟨ih.nextValue, ih.nextItems, ih.nextFields⟩

theorem read_keyed {s : String} (done : read s = .ok v) : Keyed (fun _ => True) v := by
  unfold read readDocument at done
  split at done
  · cases done
  · split at done
    · cases done
    · rename_i found left read
      split at done
      · cases done
        exact (reads_keyed _).value read
      · cases done

end DnsSteering.Json
