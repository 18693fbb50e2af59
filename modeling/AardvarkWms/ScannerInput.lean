import AardvarkWms.ScanCodes

/-! Which texts a scanner's input is left as it is, and what is left of the others. -/
namespace AardvarkWms.Scans

open Messaging (Str trim isWhiteSpace)

section Patterns
variable {pattern s t : Str} {c : Char}

/-- The pattern stands in the text, in either case. -/
def occurs (pattern : Str) : Str → Bool
  | [] => false
  | c::s => ((c::s).take pattern.length).map Char.toLower=pattern || occurs pattern s

@[simp] theorem occurs_nil : occurs pattern []=false := by rw [occurs]

theorem replaceEach_none (h : occurs pattern s=false) : replaceEach pattern 0 s=s := by
  induction s with
  | nil => rfl
  | cons c s ih =>
    rw [occurs,Bool.or_eq_false_iff,decide_eq_false_iff_not] at h
    rw [replaceEach,if_neg h.1,ih h.2]

theorem replaceEach_length (pattern s : Str) : ∀ n,
    (replaceEach pattern n s).length ≤ s.length-n := by
  induction s with
  | nil =>
    intro n
    cases n <;> exact Nat.zero_le _
  | cons c s ih =>
    intro n
    cases n with
    | zero =>
      rw [replaceEach]
      split
      · have hrest := ih (pattern.length-1)
        simp only [List.length_cons]
        omega
      · have hrest := ih 0
        simp only [List.length_cons]
        omega
    | succ n =>
      have hrest := ih n
      rw [replaceEach,List.length_cons]
      omega

theorem replaceEach_shorter (hpattern : 2≤pattern.length) (h : occurs pattern s=true) :
    (replaceEach pattern 0 s).length < s.length := by
  induction s with
  | nil => cases h
  | cons c s ih =>
    rw [replaceEach]
    split
    · rename_i hmatch
      have hrest := replaceEach_length pattern s (pattern.length-1)
      have hlong := congrArg List.length hmatch
      rw [List.length_map,List.length_take,List.length_cons] at hlong
      simp only [List.length_cons]
      omega
    · rename_i hmatch
      rw [occurs,decide_eq_false hmatch,Bool.false_or] at h
      have hrest := ih h
      simp only [List.length_cons]
      omega

theorem mem_replaceEach (h : c∈replaceEach pattern 0 s) : c∈s ∨ c=groupSeparator := by
  have hall : ∀ s n, c∈replaceEach pattern n s → c∈s ∨ c=groupSeparator := by
    intro s
    induction s with
    | nil =>
      intro n hc
      cases n <;> cases hc
    | cons a s ih =>
      intro n hc
      cases n with
      | zero =>
        rw [replaceEach] at hc
        split at hc
        · cases List.mem_cons.mp hc with
          | inl hfirst => exact Or.inr hfirst
          | inr hrest => exact (ih _ hrest).imp_left (List.mem_cons_of_mem a)
        · cases List.mem_cons.mp hc with
          | inl hfirst => exact Or.inl (hfirst ▸ List.mem_cons_self)
          | inr hrest => exact (ih 0 hrest).imp_left (List.mem_cons_of_mem a)
      | succ n => exact (ih n hc).imp_left (List.mem_cons_of_mem a)
  exact hall s 0 h

theorem mem_replaceEach_of_mem (hpattern : 0 < pattern.length) (hc : c.toLower∉pattern) (h : c∈s) :
    c∈replaceEach pattern 0 s := by
  have hall : ∀ s n, c∈s.drop n → c∈replaceEach pattern n s := by
    intro s
    induction s with
    | nil =>
      intro n hmem
      simp at hmem
    | cons a s ih =>
      intro n hmem
      cases n with
      | zero =>
        rw [replaceEach]
        split
        · rename_i hmatch
          refine List.mem_cons_of_mem _ (ih _ ?_)
          have hmem' : c∈(a::s).take pattern.length++(a::s).drop pattern.length := by
            rw [List.take_append_drop]
            exact hmem
          cases List.mem_append.mp hmem' with
          | inl hpart => exact absurd (hmatch ▸ List.mem_map_of_mem hpart) hc
          | inr hrest =>
            obtain ⟨k,hk⟩ := Nat.exists_eq_succ_of_ne_zero (Nat.ne_of_gt hpattern)
            rw [hk] at hrest ⊢
            exact hrest
        · cases List.mem_cons.mp hmem with
          | inl hfirst => exact hfirst ▸ List.mem_cons_self
          | inr hrest => exact List.mem_cons_of_mem a (ih 0 hrest)
      | succ n => exact ih n hmem
  exact hall s 0 h

theorem take_replaceEach : ∀ (k : ℕ) (s : Str), groupSeparator∉(replaceEach pattern 0 s).take k →
    (replaceEach pattern 0 s).take k=s.take k := by
  intro k
  induction k with
  | zero => exact fun _ _ => rfl
  | succ k ih =>
    intro s hkept
    cases s with
    | nil => rfl
    | cons c s =>
      rw [replaceEach] at hkept ⊢
      split at hkept
      · exact absurd List.mem_cons_self hkept
      · rename_i hmatch
        rw [if_neg hmatch]
        rw [List.take_succ_cons] at hkept ⊢
        rw [ih s fun hmem => hkept (List.mem_cons_of_mem c hmem),List.take_succ_cons]

theorem occurs_replaceEach (hpattern : 0 < pattern.length)
    (hgroup : groupSeparator.toLower∉pattern) : occurs pattern (replaceEach pattern 0 s)=false := by
  have hall : ∀ s n, occurs pattern (replaceEach pattern n s)=false := by
    intro s
    induction s with
    | nil =>
      intro n
      cases n <;> rfl
    | cons c s ih =>
      intro n
      cases n with
      | zero =>
        obtain ⟨k,hk⟩ := Nat.exists_eq_succ_of_ne_zero (Nat.ne_of_gt hpattern)
        rw [replaceEach]
        split
        · rename_i hmatch
          rw [occurs,ih,Bool.or_false,decide_eq_false_iff_not,hk,List.take_succ_cons]
          intro hseparator
          exact hgroup (hseparator ▸ List.mem_cons_self)
        · rename_i hmatch
          rw [occurs,ih,Bool.or_false,decide_eq_false_iff_not]
          intro hfound
          apply hmatch
          rw [hk,List.take_succ_cons] at hfound ⊢
          have hkept : groupSeparator∉(replaceEach pattern 0 s).take k := by
            intro hmem
            have hlower := @List.mem_map_of_mem _ _ _ _ Char.toLower (List.mem_cons_of_mem c hmem)
            rw [hfound] at hlower
            exact hgroup hlower
          rw [← take_replaceEach k s hkept]
          exact hfound
      | succ n => exact ih n
  exact hall s 0

theorem occurs_append (hpattern : 0 < pattern.length) (hc : c.toLower∉pattern) :
    occurs pattern (s++c::t)=(occurs pattern s || occurs pattern t) := by
  induction s with
  | nil =>
    obtain ⟨k,hk⟩ := Nat.exists_eq_succ_of_ne_zero (Nat.ne_of_gt hpattern)
    have hfirst : ¬((c::t).take pattern.length).map Char.toLower=pattern := by
      intro hmatch
      rw [hk,List.take_succ_cons] at hmatch
      exact hc (hmatch ▸ List.mem_cons_self)
    have hrest : occurs pattern (c::t)=occurs pattern t := by
      rw [occurs,decide_eq_false hfirst,Bool.false_or]
    rw [List.nil_append,hrest]
    rfl
  | cons a s ih =>
    have hsame : ((a::s++c::t).take pattern.length).map Char.toLower=pattern ↔
        ((a::s).take pattern.length).map Char.toLower=pattern := by
      by_cases hshort : pattern.length≤(a::s).length
      · rw [List.take_append_of_le_length hshort]
      · constructor
        · intro hmatch
          have hin : c∈(a::s++c::t).take pattern.length := by
            rw [List.take_append,List.mem_append]
            obtain ⟨k,hk⟩ := Nat.exists_eq_add_of_lt (not_le.mp hshort)
            have hrest : pattern.length-(a::s).length=k+1 := by omega
            rw [hrest,List.take_succ_cons]
            exact Or.inr List.mem_cons_self
          exact absurd (hmatch ▸ List.mem_map_of_mem hin) hc
        · intro hmatch
          have hlength := congrArg List.length hmatch
          rw [List.length_map,List.length_take] at hlength
          omega
    have hhead : (a::s)++c::t=a::(s++c::t) := rfl
    rw [hhead,occurs,occurs,← hhead,ih,Bool.or_assoc]
    simp only [hsame]

end Patterns

section Breaks
variable {s : Str} {c : Char}

theorem dropBreaks_subset (s : Str) : (dropBreaks s).Sublist s := by
  induction s with
  | nil => exact List.Sublist.refl _
  | cons c s ih =>
    rw [dropBreaks]
    split
    · exact ih.cons c
    · exact ih.cons_cons c

theorem dropBreaks_none (hline : '\n'∉s) (htab : '\t'∉s) : dropBreaks s=s := by
  induction s with
  | nil => rfl
  | cons c s ih =>
    have hrest := ih (fun h => hline (List.mem_cons_of_mem c h)) fun h => htab (List.mem_cons_of_mem c h)
    have hc : c≠ '\n' ∧ c≠ '\t' :=
      ⟨fun he => hline (he ▸ List.mem_cons_self),fun he => htab (he ▸ List.mem_cons_self)⟩
    have hnext : s.head?≠some '\n' := by
      intro hhead
      exact hline (List.mem_cons_of_mem c (List.mem_of_head? hhead))
    rw [dropBreaks,hrest]
    simp [hc.1,hc.2,hnext]

theorem dropBreaks_eq (h : dropBreaks s=s) : '\n'∉s ∧ '\t'∉s := by
  induction s with
  | nil => exact ⟨List.not_mem_nil,List.not_mem_nil⟩
  | cons c s ih =>
    rw [dropBreaks] at h
    split at h
    · have hshort := (dropBreaks_subset s).length_le
      rw [h,List.length_cons] at hshort
      omega
    · rename_i hkept
      have hrest := ih (List.cons.inj h).2
      simp only [Bool.or_eq_true,decide_eq_true_eq,not_or] at hkept
      constructor
      · intro hmem
        cases List.mem_cons.mp hmem with
        | inl hfirst => exact hkept.1.1 hfirst.symm
        | inr hlater => exact hrest.1 hlater
      · intro hmem
        cases List.mem_cons.mp hmem with
        | inl hfirst => exact hkept.1.2 hfirst.symm
        | inr hlater => exact hrest.2 hlater

end Breaks

section Inputs
variable {s t : Str} {c : Char}

theorem trim_within (s : Str) : trim s <:+: s := by
  have hstart : (s.dropWhile isWhiteSpace) <:+ s := List.dropWhile_suffix _
  have hend : trim s <+: s.dropWhile isWhiteSpace := List.rdropWhile_prefix _ _
  exact hend.isInfix.trans hstart.isInfix

/-- Nothing in the text is put in another's place or taken away by the normalisation. -/
def Untouched (s : Str) : Prop :=
  occurs "\\u001d".toList s=false ∧ occurs "\\x1d".toList s=false ∧ occurs "<gs>".toList s=false ∧
    '\n'∉s ∧ '\t'∉s

instance decidableUntouched (s : Str) : Decidable (Untouched s) :=
  inferInstanceAs (Decidable (occurs "\\u001d".toList s=false ∧ occurs "\\x1d".toList s=false ∧
    occurs "<gs>".toList s=false ∧ '\n'∉s ∧ '\t'∉s))

theorem normalizeScannerInput_untouched (h : Untouched s) : normalizeScannerInput s=trim s := by
  unfold normalizeScannerInput
  rw [replaceEach_none h.1,replaceEach_none h.2.1,replaceEach_none h.2.2.1,
    dropBreaks_none h.2.2.2.1 h.2.2.2.2]

theorem passes_length (s : Str) :
    (replaceEach "\\u001d".toList 0 s).length≤ s.length ∧
    (replaceEach "\\x1d".toList 0 (replaceEach "\\u001d".toList 0 s)).length≤
      (replaceEach "\\u001d".toList 0 s).length ∧
    (replaceEach "<gs>".toList 0 (replaceEach "\\x1d".toList 0
      (replaceEach "\\u001d".toList 0 s))).length≤
        (replaceEach "\\x1d".toList 0 (replaceEach "\\u001d".toList 0 s)).length ∧
    (normalizeScannerInput s).length≤(replaceEach "<gs>".toList 0 (replaceEach "\\x1d".toList 0
      (replaceEach "\\u001d".toList 0 s))).length :=
  ⟨replaceEach_length _ _ _,replaceEach_length _ _ _,replaceEach_length _ _ _,
    (trim_within _).length_le.trans (dropBreaks_subset _).length_le⟩

theorem normalizeScannerInput_length (s : Str) : (normalizeScannerInput s).length ≤ s.length := by
  have hpasses := passes_length s
  omega

theorem untouched_of_length (h : s.length≤(normalizeScannerInput s).length) :
    Untouched s ∧ normalizeScannerInput s=s := by
  have hpattern : ∀ (pattern : String) (s : Str), 2≤pattern.toList.length →
      s.length≤(replaceEach pattern.toList 0 s).length →
      occurs pattern.toList s=false ∧ replaceEach pattern.toList 0 s=s := by
    intro pattern s hlong hkept
    cases hoccurs : occurs pattern.toList s with
    | false => exact ⟨rfl,replaceEach_none hoccurs⟩
    | true =>
      have hshort := replaceEach_shorter hlong hoccurs
      omega
  obtain ⟨-,hx,hgs,hlast⟩ := passes_length s
  have hu := hpattern "\\u001d" s (by decide) (by omega)
  rw [hu.2] at hx hgs hlast
  have hx := hpattern "\\x1d" s (by decide) (by omega)
  rw [hx.2] at hgs hlast
  have hgs := hpattern "<gs>" s (by decide) (by omega)
  unfold normalizeScannerInput at h ⊢
  rw [hu.2,hx.2,hgs.2] at h ⊢
  have htrim := (trim_within (dropBreaks s)).length_le
  have hdropped : dropBreaks s=s := (dropBreaks_subset s).eq_of_length_le (by omega)
  rw [hdropped] at h ⊢
  have hbreaks := dropBreaks_eq hdropped
  exact ⟨⟨hu.1,hx.1,hgs.1,hbreaks⟩,(trim_within s).sublist.eq_of_length_le (by omega)⟩

theorem untouched_join : Untouched (s++ ':'::t) ↔ Untouched s ∧ Untouched t := by
  unfold Untouched
  rw [occurs_append (by decide) (by decide),occurs_append (by decide) (by decide),
    occurs_append (by decide) (by decide)]
  simp only [Bool.or_eq_false_iff,List.mem_append,List.mem_cons,not_or]
  have hline : ('\n' : Char)≠ ':' := by decide
  have htab : ('\t' : Char)≠ ':' := by decide
  constructor
  · intro h
    exact ⟨⟨h.1.1,h.2.1.1,h.2.2.1.1,h.2.2.2.1.1,h.2.2.2.2.1⟩,
      ⟨h.1.2,h.2.1.2,h.2.2.1.2,h.2.2.2.1.2.2,h.2.2.2.2.2.2⟩⟩
  · intro h
    exact ⟨⟨h.1.1,h.2.1⟩,⟨h.1.2.1,h.2.2.1⟩,⟨h.1.2.2.1,h.2.2.2.1⟩,
      ⟨h.1.2.2.2.1,hline,h.2.2.2.2.1⟩,⟨h.1.2.2.2.2,htab,h.2.2.2.2.2⟩⟩

theorem mem_normalizeScannerInput (h : c∈normalizeScannerInput s) : c∈s ∨ c=groupSeparator := by
  have hgs := (dropBreaks_subset _).subset ((trim_within _).subset h)
  cases mem_replaceEach hgs with
  | inr hseparator => exact Or.inr hseparator
  | inl hx =>
    cases mem_replaceEach hx with
    | inr hseparator => exact Or.inr hseparator
    | inl hu => exact mem_replaceEach hu

end Inputs

end AardvarkWms.Scans
