import Requisite.Proofs.Expr.Automaton
import Requisite.Proofs.LeafCodec

/-!
# Why a leaf is refused

A text is no leaf for five reasons (`LeafFault.Applies`), said here of the text alone. Several may
apply to one text, and the one that is given is the first of them in the order in which they are
looked for (`Leaf.decode_eq_error_iff`).

The scanner finds braces in its own way: it looks for the brace that opens a block only after the
first character of a leaf, and ends the leaf at the first closing brace after that. The two agree on
the leaves that it cuts out of an expression (`Leaf.decode_token`). In these a block is always
opened and closed, so two of the reasons never apply; where the leaf begins with a brace, its id is
empty however the scanner went on; and in all other leaves the two see the same id and the same
block.
-/

namespace Requisite

/-! ## The five reasons -/

/-- The characters between the first opening brace of a text and its last character. -/
def blockOf (text : List Char) : List Char :=
  (text.dropWhile fun c => c ≠ blockStart).tail.dropLast

/-- The first of some characters that is no flag. -/
def firstBad? (cs : List Char) : Option Char :=
  cs.find? fun c => c ≠ 't' ∧ c ≠ 'f'

/-- The text is no leaf for this reason, whatever else is wrong with it. -/
def LeafFault.Applies (text : List Char) : LeafFault → Prop
  | .noBlock => blockStart ∉ text
  | .noId => text.head? = some blockStart
  | .openBlock => text.getLast? ≠ some blockEnd
  | .fewFlags count => (blockOf text).length = count ∧ count < 4
  | .badFlag c => firstBad? ((blockOf text).take 4) = some c

/-- The place of a reason in the order in which they are looked for. -/
def LeafFault.rank : LeafFault → Nat
  | .noBlock => 0
  | .noId => 1
  | .openBlock => 2
  | .fewFlags _ => 3
  | .badFlag _ => 4

/-- The reason applies to the text, and none before it does. -/
structure LeafFault.First (text : List Char) (fault : LeafFault) : Prop where
  applies : fault.Applies text
  first : ∀ earlier : LeafFault, earlier.rank < fault.rank → ¬ earlier.Applies text

/-- There is at most one such reason. -/
theorem LeafFault.First.unique {text : List Char} {fault fault' : LeafFault} (h : fault.First text)
    (h' : fault'.First text) : fault = fault' := by
  have hrank : fault.rank = fault'.rank := by
    rcases Nat.lt_trichotomy fault.rank fault'.rank with hlt | heq | hgt
    · exact absurd h.applies (h'.first fault hlt)
    · exact heq
    · exact absurd h'.applies (h.first fault' hgt)
  have happlies := h.applies
  have happlies' := h'.applies
  cases fault <;> cases fault' <;> simp_all [LeafFault.rank, LeafFault.Applies]

/-! ## Blocks -/

/-- Where a flag is read before others, the first character that is none is looked for in order. -/
theorem readFlag_bind_eq_error {α : Type} {c : Char} {cs : List Char}
    {next : Bool → Except LeafFault α} {fault : LeafFault}
    (hnext : ∀ b, next b = .error fault ↔ ∃ d, firstBad? cs = some d ∧ fault = .badFlag d) :
    (readFlag c).bind next = .error fault ↔
      ∃ d, firstBad? (c :: cs) = some d ∧ fault = .badFlag d := by
  by_cases hc : c ≠ 't' ∧ c ≠ 'f'
  · have hfound : firstBad? (c :: cs) = some c := List.find?_cons_of_pos (decide_eq_true hc)
    rw [readFlag, if_neg hc.1, if_neg hc.2, hfound]
    simp [Except.bind, eq_comm]
  · have hrest : firstBad? (c :: cs) = firstBad? cs := List.find?_cons_of_neg (by simpa using hc)
    obtain ⟨b, hb⟩ : ∃ b, flagChar b = c := by
      by_cases ht : c = 't'
      · exact ⟨true, ht.symm⟩
      · exact ⟨false, (not_not.1 fun hf => hc ⟨ht, Ne.symm hf⟩)⟩
    rw [readFlag_eq_ok.2 hb, hrest]
    exact hnext b

/-- A block is refused for having too few characters, or for the first of four that is no flag. -/
theorem Flags.decode_eq_error_iff {block : List Char} {fault : LeafFault} :
    Flags.decode block = .error fault ↔
      block.length < 4 ∧ fault = .fewFlags block.length ∨
        4 ≤ block.length ∧ ∃ c, firstBad? (block.take 4) = some c ∧ fault = .badFlag c := by
  match block with
  | [] | [_] | [_, _] | [_, _, _] => simp [Flags.decode, eq_comm]
  | c₁ :: c₂ :: c₃ :: c₄ :: grade =>
    have hread : Flags.decode (c₁ :: c₂ :: c₃ :: c₄ :: grade) = .error fault ↔
        ∃ c, firstBad? [c₁, c₂, c₃, c₄] = some c ∧ fault = .badFlag c := by
      refine readFlag_bind_eq_error fun _ => readFlag_bind_eq_error fun _ =>
        readFlag_bind_eq_error fun _ => readFlag_bind_eq_error fun _ => ?_
      simp [firstBad?]
    rw [hread]
    simp

/-! ## Texts -/

section

variable {text : String} {id rest : List Char}

/-- The block follows the first opening brace. -/
theorem blockOf_append (h : blockStart ∉ id) (rest : List Char) :
    blockOf (id ++ blockStart :: rest) = rest.dropLast := by
  have hid : ∀ c ∈ id, decide (c ≠ blockStart) = true :=
    fun c hc => decide_eq_true fun heq => h (heq ▸ hc)
  rw [blockOf, List.dropWhile_append_of_pos hid]
  rfl

/-- A text with a brace ends in a closing one if what follows the brace does. -/
theorem getLast?_append_blockStart :
    (id ++ blockStart :: rest).getLast? = some blockEnd ↔ rest.getLast? = some blockEnd := by
  have hne : blockStart ≠ blockEnd := by decide
  rw [List.getLast?_append, List.getLast?_cons, Option.some_or]
  cases rest.getLast? <;> simp [hne]

/-- A text has no id if it begins with its first brace. -/
theorem LeafFault.applies_noId_iff (h : blockStart ∉ id) :
    LeafFault.noId.Applies (id ++ blockStart :: rest) ↔ id = [] := by
  rw [LeafFault.Applies]
  cases id with
  | nil => simp
  | cons c id => simpa using fun heq : c = blockStart => h (heq ▸ List.mem_cons_self)

/-- A block is open if it does not end in a closing brace. -/
theorem LeafFault.applies_openBlock_iff :
    LeafFault.openBlock.Applies (id ++ blockStart :: rest) ↔ rest.getLast? ≠ some blockEnd :=
  not_congr getLast?_append_blockStart

/-- A text with a brace has a block. -/
theorem LeafFault.not_applies_noBlock :
    ¬ LeafFault.noBlock.Applies (id ++ blockStart :: rest) :=
  not_not.2 (List.mem_append_right _ List.mem_cons_self)

/-- A closed block after an id is refused for the first reason that applies, which is one of the
last two. -/
theorem LeafFault.first_of_flags {fault : LeafFault} (hid : blockStart ∉ id) (hnamed : id ≠ [])
    (hclosed : rest.getLast? = some blockEnd) (h : Flags.decode rest.dropLast = .error fault) :
    fault.First (id ++ blockStart :: rest) := by
  have hblock : blockOf (id ++ blockStart :: rest) = rest.dropLast := blockOf_append hid rest
  have hbefore (earlier : LeafFault) (hlt : earlier.rank < 3) :
      ¬ earlier.Applies (id ++ blockStart :: rest) := by
    cases earlier with
    | noBlock => exact not_applies_noBlock
    | noId => exact mt (applies_noId_iff hid).1 hnamed
    | openBlock => exact mt applies_openBlock_iff.1 (not_not.2 hclosed)
    | fewFlags _ => exact absurd hlt (Nat.lt_irrefl 3)
    | badFlag _ => exact absurd hlt (Nat.lt_asymm (Nat.lt_succ_self 3))
  rw [Flags.decode_eq_error_iff, ← hblock] at h
  rcases h with ⟨hfew, rfl⟩ | ⟨hlong, c, hc, rfl⟩
  · exact ⟨⟨rfl, hfew⟩, hbefore⟩
  · refine ⟨hc, fun earlier hlt => ?_⟩
    rcases Nat.lt_or_eq_of_le (Nat.le_of_lt_succ hlt) with hlt | heq
    · exact hbefore earlier hlt
    · cases earlier <;> cases heq
      exact fun hfew => absurd hlong (Nat.not_le.2 (hfew.1 ▸ hfew.2))

/-- A text without a brace has no block. -/
theorem Leaf.decode_of_not_mem (h : blockStart ∉ text.toList) :
    Leaf.decode text = .error .noBlock := by
  unfold Leaf.decode
  split
  next => rfl
  next id rest hcut =>
    obtain ⟨htext, -⟩ := Text.cut?_eq_some hcut
    exact absurd (by rw [htext]; simp) h

/-- What is read of a text with a brace: its id, and then its block, if it is closed. -/
theorem Leaf.decode_of_append (htext : text.toList = id ++ blockStart :: rest)
    (h : blockStart ∉ id) : Leaf.decode text =
      if id = [] then .error .noId
      else if rest.getLast? = some blockEnd then
        (Flags.decode rest.dropLast).map fun flags => ⟨String.ofList id, flags⟩
      else .error .openBlock := by
  rw [Leaf.decode, htext, Text.cut?_append h]
  simp only [List.isEmpty_iff]

/-- To a text that is read as a leaf none of the reasons applies. -/
theorem Leaf.not_applies_of_decode {l : Leaf} (h : Leaf.decode text = .ok l) (fault : LeafFault) :
    ¬ fault.Applies text.toList := by
  obtain ⟨block, htext, hne, hid, hflags⟩ := Leaf.decode_eq_ok h
  have hblock : blockOf text.toList = block := by
    rw [htext, blockOf_append hid, List.dropLast_concat]
  have hno (fault : LeafFault) : Flags.decode block ≠ .error fault := by
    rw [hflags]
    nofun
  intro happlies
  cases fault with
  | noBlock => exact LeafFault.not_applies_noBlock (htext ▸ happlies)
  | noId => exact hne ((LeafFault.applies_noId_iff hid).1 (htext ▸ happlies))
  | openBlock => exact LeafFault.applies_openBlock_iff.1 (htext ▸ happlies) List.getLast?_concat
  | fewFlags count =>
    rw [LeafFault.Applies, hblock] at happlies
    exact hno _ (Flags.decode_eq_error_iff.2 (.inl ⟨happlies.1 ▸ happlies.2, rfl⟩))
  | badFlag c =>
    rw [LeafFault.Applies, hblock] at happlies
    rcases Nat.lt_or_ge block.length 4 with hfew | hlong
    · exact hno _ (Flags.decode_eq_error_iff.2 (.inl ⟨hfew, rfl⟩))
    · exact hno _ (Flags.decode_eq_error_iff.2 (.inr ⟨hlong, c, happlies, rfl⟩))

/-- The reason for which a text is refused is the first that applies to it. -/
theorem LeafFault.first_of_decode {fault : LeafFault} (h : Leaf.decode text = .error fault) :
    fault.First text.toList := by
  by_cases hbrace : blockStart ∈ text.toList
  · obtain ⟨id, rest, htext, hid⟩ := List.eq_append_cons_of_mem hbrace
    rw [Leaf.decode_of_append htext hid] at h
    rw [htext]
    split at h
    next hempty =>
      cases h
      refine ⟨(applies_noId_iff hid).2 hempty, fun earlier hlt => ?_⟩
      cases earlier <;> simp [LeafFault.rank] at hlt
      exact not_applies_noBlock
    next hnamed =>
      split at h
      next hclosed => exact first_of_flags hid hnamed hclosed (map_eq_error.1 h)
      next hopen =>
        cases h
        refine ⟨applies_openBlock_iff.2 hopen, fun earlier hlt => ?_⟩
        cases earlier with
        | noBlock => exact not_applies_noBlock
        | noId => exact mt (applies_noId_iff hid).1 hnamed
        | _ => simp [LeafFault.rank] at hlt
  · rw [Leaf.decode_of_not_mem hbrace] at h
    cases h
    exact ⟨hbrace, fun earlier hlt => absurd hlt (Nat.not_lt_zero _)⟩

end

/-- A text is refused for the first reason that applies to it. -/
theorem Leaf.decode_eq_error_iff {text : String} {fault : LeafFault} :
    Leaf.decode text = .error fault ↔ fault.First text.toList := by
  constructor
  · exact LeafFault.first_of_decode
  · intro h
    cases hdecode : Leaf.decode text with
    | ok l => exact absurd h.applies (Leaf.not_applies_of_decode hdecode fault)
    | error fault' => rw [h.unique (LeafFault.first_of_decode hdecode)]

/-! ## The leaves of an expression -/

/-- A character that is no bracket, no connective and no opening brace is none of these five. -/
theorem not_mem_signs {c : Char} (h : structural? c = none) (hstart : c ≠ blockStart) :
    c ∉ ['(', ')', '&', '|', blockStart] := by
  intro hc
  simp only [List.mem_cons, List.not_mem_nil, or_false] at hc
  rcases hc with rfl | rfl | rfl | rfl | hc
  · cases h
  · cases h
  · cases h
  · cases h
  · exact hstart hc

/-- A requisite is a whole leaf. -/
theorem leafText_of_mem_tokenize {text : String} {t : Token} (ht : t ∈ tokenize text)
    (hkind : t.kind = .requisite) : LeafText t.value.toList := by
  rcases List.mem_append.1 ht with ht | ht
  · exact leafText_of_mem_tokens ht hkind
  · rw [List.mem_singleton.1 ht] at hkind
    cases hkind

/-- In a whole leaf a block is opened and closed. -/
theorem LeafText.not_applies {text : List Char} (h : LeafText text) :
    ¬ LeafFault.noBlock.Applies text ∧ ¬ LeafFault.openBlock.Applies text := by
  obtain @⟨c, id, block, -, -, -⟩ := h
  rw [← List.cons_append]
  exact ⟨LeafFault.not_applies_noBlock,
    mt LeafFault.applies_openBlock_iff.1 (not_not.2 List.getLast?_concat)⟩

/-- The block of a whole leaf that is read has no closing brace. -/
theorem LeafText.not_mem_encode {text : String} {l : Leaf} (h : LeafText text.toList)
    (hl : Leaf.decode text = .ok l) : blockEnd ∉ l.flags.encode := by
  obtain ⟨hwritable, rfl⟩ := Leaf.decode_eq_ok_iff.1 hl
  have hread := Text.cut?_append hwritable.noStart (l.flags.encode ++ [blockEnd])
  rw [Leaf.encode, String.toList_ofList] at h
  generalize hcs : l.id.toList ++ blockStart :: (l.flags.encode ++ [blockEnd]) = cs at h hread
  obtain @⟨c, id, block, -, noStart, noEnd⟩ := h
  -- The id of the leaf does not begin with a brace, so the scanner saw the same brace after it.
  have hc : c ≠ blockStart := by
    rintro rfl
    obtain ⟨a, as, hid⟩ := List.exists_cons_of_ne_nil (l := l.id.toList)
      (by simpa using hwritable.named)
    rw [hid, List.cons_append, List.cons.injEq] at hcs
    exact hwritable.noStart (by rw [hid, hcs.1]; exact List.mem_cons_self)
  have hscan : Text.cut? [blockStart] (c :: (id ++ blockStart :: (block ++ [blockEnd]))) =
      some (c :: id, block ++ [blockEnd]) :=
    Text.cut?_append (List.not_mem_cons_of_ne_of_not_mem (Ne.symm hc) noStart) _
  rw [hscan] at hread
  obtain ⟨-, hblock⟩ := Prod.mk.inj (Option.some.inj hread)
  rwa [← List.append_cancel_right hblock]

namespace Automaton

/-- A step blames a leaf only at the token that is the leaf. -/
theorem step_eq_malformedLeaf {s : State} {t : Token} {leaf : String} {fault : LeafFault}
    (h : step s t = .error (.malformedLeaf leaf fault)) :
    t.kind = .requisite ∧ t.value = leaf ∧ Leaf.decode leaf = .error fault := by
  unfold step at h
  split at h
  · split at h
    · cases h
    next hkind =>
      split at h
      · cases h
      next hdecode =>
        cases h
        exact ⟨hkind, rfl, hdecode⟩
    · cases h
  · split at h <;> cases h

/-- So does a run. -/
theorem exists_token_of_run {leaf : String} {fault : LeafFault} {ts : List Token} {s : State}
    (h : run s ts = some (.error (.malformedLeaf leaf fault))) :
    ∃ t ∈ ts, t.kind = .requisite ∧ t.value = leaf ∧ Leaf.decode leaf = .error fault := by
  induction ts generalizing s with
  | nil => cases h
  | cons t ts ih =>
    rw [run] at h
    split at h
    next hstep =>
      cases h
      exact ⟨t, List.mem_cons_self, step_eq_malformedLeaf hstep⟩
    next => cases h
    next s' _ =>
      obtain ⟨u, hu, hleaf⟩ := ih h
      exact ⟨u, List.mem_cons_of_mem _ hu, hleaf⟩

end Automaton

/-- The leaf for which an expression is refused is one of its tokens. -/
theorem Graph.exists_token_of_ofText {owner text leaf : String} {fault : LeafFault}
    (h : Graph.ofText owner text = .error (.malformedLeaf leaf fault)) :
    ∃ t ∈ tokenize text, t.kind = .requisite ∧ t.value = leaf ∧
      Leaf.decode leaf = .error fault := by
  rw [Graph.ofText] at h
  split at h
  · cases h
  · have hparse : Expr.ofTokens (stopToken text) (tokens text) =
        .error (.malformedLeaf leaf fault) := map_eq_error.1 h
    have hrun : Automaton.run (.wanted 0) (tokens text ++ [stopToken text]) =
        some ((Expr.ofTokens (stopToken text) (tokens text)).map fun _ => ()) :=
      Automaton.run_ofTokens rfl fun t ht => kind_ne_stop ht
    rw [hparse] at hrun
    exact Automaton.exists_token_of_run hrun

/-- In a whole leaf of an expression a block is opened and closed, so two of the reasons never
apply. It is read as a leaf whose id begins with no bracket, no connective and no brace, and whose
grade has no closing brace, or it is refused for the first of the other reasons that applies. An
expression that is refused for a leaf is refused for one of its tokens, for the reason for which
this is no leaf. -/
theorem Leaf.decode_token (text : String) :
    (∀ t ∈ tokenize text, t.kind = .requisite →
      ¬ LeafFault.noBlock.Applies t.value.toList ∧ ¬ LeafFault.openBlock.Applies t.value.toList ∧
      ((∃ l, Leaf.decode t.value = .ok l ∧
          (∃ c ∈ l.id.toList.head?, c ∉ ['(', ')', '&', '|', blockStart]) ∧
          blockEnd ∉ l.flags.minimumGrade.toList) ∨
        ∃ fault, Leaf.decode t.value = .error fault ∧ fault.First t.value.toList)) ∧
    ∀ owner leaf fault, Graph.ofText owner text = .error (.malformedLeaf leaf fault) →
      fault ≠ .noBlock ∧ fault ≠ .openBlock ∧
      ∃ t ∈ tokenize text, t.kind = .requisite ∧ t.value = leaf ∧
        Leaf.decode leaf = .error fault := by
  constructor
  · intro t ht hkind
    have htext := leafText_of_mem_tokenize ht hkind
    refine ⟨htext.not_applies.1, htext.not_applies.2, ?_⟩
    cases hdecode : Leaf.decode t.value with
    | error fault => exact .inr ⟨fault, rfl, Leaf.decode_eq_error_iff.1 hdecode⟩
    | ok l =>
      refine .inl ⟨l, rfl, ?_, fun hgrade => ?_⟩
      · obtain ⟨c, cs, hid, hc⟩ := Leaf.startsPlain_of_decode htext hdecode
        have hstart : c ≠ blockStart := by
          rintro rfl
          exact (Leaf.decode_eq_ok_iff.1 hdecode).1.noStart (by rw [hid]; exact List.mem_cons_self)
        exact ⟨c, by rw [hid]; rfl, not_mem_signs hc hstart⟩
      · -- The grade is what follows the four flags.
        have hdrop : blockEnd ∈ l.flags.encode.drop 4 := hgrade
        exact htext.not_mem_encode hdecode (List.mem_of_mem_drop hdrop)
  · intro owner leaf fault h
    obtain ⟨t, ht, hkind, rfl, hdecode⟩ := Graph.exists_token_of_ofText h
    have hfirst := Leaf.decode_eq_error_iff.1 hdecode
    have hnot := (leafText_of_mem_tokenize ht hkind).not_applies
    refine ⟨?_, ?_, t, ht, hkind, rfl, hdecode⟩
    · rintro rfl
      exact hnot.1 hfirst.applies
    · rintro rfl
      exact hnot.2 hfirst.applies

/-- Where a leaf begins with a brace, the scanner takes the next one to open its block. Three
reasons apply to this leaf, and the first is given. -/
example : tokenize "\x7b\x7bxf\x7d" = [⟨.requisite, "\x7b\x7bxf\x7d", 0⟩, ⟨.stop, "$", 5⟩] ∧
    Leaf.decode "\x7b\x7bxf\x7d" = .error .noId := by
  decide

end Requisite
