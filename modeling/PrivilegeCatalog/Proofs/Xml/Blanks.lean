import PrivilegeCatalog.Proofs.Xml.Shape
import PrivilegeCatalog.Xml.Source

/-!
# Empty documents

A document of fillers alone is no whole document: no filler opens the root.
-/

namespace PrivilegeCatalog.Xml

open Content (isFiller)

namespace Scan

variable {resolve : Refer} {s : Scan}

/-- A filler between pieces of markup before the root leads nowhere. -/
theorem step_filler {c : Char} {closers : Nat} (mode : s.mode = .text closers)
    (stage : s.stage = .start ∨ s.stage = .prolog) (filler : isFiller c.toNat = true) :
    (s.step resolve c).mode = .broken
      ∨ (s.step resolve c).mode = .text closers ∧ (s.step resolve c).stage = .prolog := by
  have outside : s.inContent = false := by
    rw [inContent]
    rcases stage with stage | stage <;> rw [stage] <;> rfl
  have noMarkup : (c == '<') = false := by
    rw [beq_eq_false_iff_ne]
    intro same
    subst same
    revert filler
    decide
  rw [step]
  split
  · rw [stepMode, mode]
    dsimp only
    rw [stepText, noMarkup, if_neg Bool.false_ne_true, outside, if_neg Bool.false_ne_true]
    split
    · refine .inr ⟨mode, ?_⟩
      rw [count]
      rcases stage with stage | stage <;> rw [stage] <;> rfl
    · exact .inl rfl
  · exact .inl rfl

theorem run_fillers {cs : List Char} (fillers : ∀ c ∈ cs, isFiller c.toNat = true)
    (before : s.mode = .broken ∨
      (∃ closers, s.mode = .text closers) ∧ (s.stage = .start ∨ s.stage = .prolog)) :
    (s.run resolve cs).mode = .broken
      ∨ (s.run resolve cs).stage = .start ∨ (s.run resolve cs).stage = .prolog := by
  induction cs generalizing s with
  | nil => exact before.imp_right (·.2)
  | cons c rest ih =>
    refine ih (fun d inside => fillers d (List.mem_cons_of_mem _ inside)) ?_
    rcases before with broken | ⟨⟨closers, mode⟩, stage⟩
    · exact .inl (step_of_broken broken)
    · refine (step_filler mode stage (fillers c (List.mem_cons_self ..))).imp_right ?_
      exact fun ⟨mode, stage⟩ => ⟨⟨closers, mode⟩, .inr stage⟩

/-- Fillers make up no document. -/
theorem not_wellFormed_fillers {cs : List Char} (fillers : ∀ c ∈ cs, isFiller c.toNat = true) :
    (Document.ofChars cs).wellFormed = false := by
  rw [← Bool.not_eq_true]
  intro whole
  obtain ⟨⟨closers, rest⟩, epilog, -⟩ := isWhole_iff.mp whole
  have before : (Scan.ofChars cs).mode = .broken
      ∨ (Scan.ofChars cs).stage = .start ∨ (Scan.ofChars cs).stage = .prolog :=
    run_fillers fillers (.inr ⟨⟨0, rfl⟩, .inl rfl⟩)
  rcases before with broken | stage | stage
  · cases rest.symm.trans broken
  · cases epilog.symm.trans stage
  · cases epilog.symm.trans stage

end Scan

namespace Content

theorem toNat_ofNat {n : Nat} (low : n < 0xD800) : (Char.ofNat n).toNat = n := by
  rw [Char.ofNat, dif_pos (.inl low)]
  rfl

theorem lt_of_isFiller {n : Nat} (filler : isFiller n = true) : n < 0x80 := by
  simp only [isFiller, Bool.or_eq_true, beq_iff_eq, Bool.and_eq_true,
    decide_eq_true_iff] at filler
  omega

/-- Fillers as octets are fillers as characters. -/
theorem decodeUtf8_fillers {octets : Bytes} (fillers : ∀ b ∈ octets, isFiller b.toNat = true) :
    ∀ c ∈ (Encoding.decodeUtf8 octets).chars, isFiller c.toNat = true := by
  induction octets with
  | nil => nofun
  | cons a rest ih =>
    have filler := fillers a (List.mem_cons_self ..)
    have low := lt_of_isFiller filler
    have back : (Char.ofNat a.toNat).toNat = a.toNat := toNat_ofNat (Nat.lt_trans low (by decide))
    rw [Encoding.decodeUtf8.eq_def]
    dsimp only
    rw [if_pos (UInt8.lt_iff_toNat_lt.mpr low), Decoded.cons, List.forall_mem_cons, back]
    exact ⟨filler, ih fun b inside => fillers b (List.mem_cons_of_mem _ inside)⟩

theorem declaredEncoding?_fillers {octets : Bytes}
    (fillers : ∀ b ∈ octets, isFiller b.toNat = true) : declaredEncoding? octets = none := by
  have noDeclaration : after? "<?xml"
      ((octets.takeWhile (· < 0x80)).map fun b => Char.ofNat b.toNat) = none := by
    rw [after?, if_neg]
    rcases octets with _ | ⟨a, rest⟩
    · exact Bool.false_ne_true
    · have filler := fillers a (List.mem_cons_self ..)
      rw [List.takeWhile_cons]
      split
      · rw [List.map_cons]
        intro lead
        have first : '<' = Char.ofNat a.toNat :=
          eq_of_beq (Bool.and_eq_true_iff.mp lead).1
        rw [← toNat_ofNat (Nat.lt_trans (lt_of_isFiller filler) (by decide)), ← first] at filler
        revert filler
        decide
      · exact Bool.false_ne_true
  rw [declaredEncoding?, noDeclaration]
  rfl

/-- The characters of an empty document are fillers. -/
theorem decoded_fillers {content : Content} (empty : content.isEmpty = true) :
    ∀ c ∈ content.decoded.chars, isFiller c.toNat = true := by
  cases content with
  | text s =>
    have fillers : ∀ c ∈ s.toList, isFiller c.toNat = true := List.all_eq_true.mp empty
    have part : dropMark s.toList ⊆ s.toList := by
      rw [dropMark.eq_def]
      split
      case h_1 rest mark => exact mark ▸ List.subset_cons_self ..
      case h_2 => exact List.Subset.refl _
    exact fun c inside => fillers c (part inside)
  | bytes octets =>
    have fillers : ∀ b ∈ octets, isFiller b.toNat = true := List.all_eq_true.mp empty
    rw [decoded, decodeDocument.eq_def]
    split
    case h_6 =>
      rw [declaredEncoding?_fillers fillers]
      exact decodeUtf8_fillers fillers
    all_goals exact absurd (fillers _ (List.mem_cons_self ..)) (by decide)

/-- An empty document is not well formed. -/
theorem not_isEmpty_of_wellFormed {content : Content}
    (whole : content.document.wellFormed = true) : content.isEmpty = false := by
  rw [← Bool.not_eq_true]
  intro empty
  have broken := Scan.not_wellFormed_fillers (decoded_fillers empty)
  unfold document at whole
  simp only [broken, Bool.false_and, Bool.false_eq_true] at whole

end Content

end PrivilegeCatalog.Xml
