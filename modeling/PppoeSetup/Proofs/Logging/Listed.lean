import PppoeSetup.Proofs.Logging.Levels

/-!
# Listed directives

Directives without brackets are levels, targets, and targets with levels. A list of such texts,
with commas between them, is always a filter, and has the directives that its texts stand for.
-/

namespace PppoeSetup

open Text

namespace Text

variable {c : Char} {cs : List Char}

lemma trim_eq_self (h : ∀ c ∈ cs, ¬ isBlank c) : trim cs = cs := by
  simpa using trim_append (List.forall_mem_nil _) (List.forall_mem_nil _) h

lemma mem_intercalate {sep : Char} {ps : List (List Char)} (h : c ∈ [sep].intercalate ps) :
    c = sep ∨ ∃ p ∈ ps, c ∈ p := by
  induction ps with
  | nil => cases h
  | cons p ps ih =>
    cases ps with
    | nil => exact .inr ⟨p, List.mem_singleton_self p, by simpa using h⟩
    | cons q ps =>
      rw [List.intercalate_cons_cons, List.mem_append, List.mem_append] at h
      obtain (h | h) | h := h
      · exact .inr ⟨p, List.mem_cons_self, h⟩
      · exact .inl (List.mem_singleton.mp h)
      · obtain h | ⟨r, hr, h⟩ := ih h
        · exact .inl h
        · exact .inr ⟨r, List.mem_cons_of_mem p hr, h⟩

lemma utf8Length_append (cs ds : List Char) :
    utf8Length (cs ++ ds) = utf8Length cs + utf8Length ds := by
  induction cs with
  | nil => simp [utf8Length]
  | cons c cs ih =>
    show c.utf8Size + utf8Length (cs ++ ds) = c.utf8Size + utf8Length cs + utf8Length ds
    rw [ih, Nat.add_assoc]

end Text

namespace Logging

/-! ### Spellings of thresholds -/

/-- The ways to write a threshold. -/
inductive Threshold.Spelled : Threshold → List Char → Prop
  | severity {s : Severity} {cs : List Char} (h : s.Spelled cs) : Spelled (some s) cs
  /-- The word `off`, every letter in either case. -/
  | off {cs : List Char} (h : List.Forall₂ (fun c d => d = c ∨ d = c.toUpper) "off".toList cs) :
    Spelled none cs
  /-- Zero, with further zeros before it. -/
  | zero (zeros : Nat) : Spelled none (List.replicate zeros '0' ++ ['0'])
  | signedZero (zeros : Nat) : Spelled none ('+' :: (List.replicate zeros '0' ++ ['0']))

namespace Severity

variable {s : Severity} {cs : List Char}

lemma Spelled.unsigned?_ne_zero (h : s.Spelled cs) : unsigned? cs ≠ some 0 := by
  have hnumber : ∀ zeros, (cs = List.replicate zeros '0' ++ [s.number.digitChar] ∨
      cs = '+' :: (List.replicate zeros '0' ++ [s.number.digitChar])) → unsigned? cs ≠ some 0 := by
    intro zeros hzeros
    rw [(unsigned?_eq_some_iff s.number_lt).mpr ⟨zeros, hzeros⟩, ne_eq, Option.some_inj]
    exact s.number_pos.ne'
  cases h with
  | name h =>
    rw [unsigned?_of_isNamed (isNamed_iff.mpr h)]
    nofun
  | number zeros => exact hnumber zeros (.inl rfl)
  | signed zeros => exact hnumber zeros (.inr rfl)

end Severity

namespace Threshold

variable {t : Threshold} {cs : List Char}

lemma isOff_iff : cs.map Char.toLower = "off".toList ↔
    List.Forall₂ (fun c d => d = c ∨ d = c.toUpper) "off".toList cs := by
  have hoff : "off".toList.all fun c => c.toLower = c ∧ c.toUpper.toLower = c := by decide
  exact Severity.map_toLower_eq_iff fun c hc => of_decide_eq_true (List.all_eq_true.mp hoff c hc)

lemma ofChars?_of_isOff (h : cs.map Char.toLower = "off".toList) : ofChars? cs = some none := by
  have hnumber : unsigned? cs = none := unsigned?_of_isLower (by rw [h]; decide)
  have hseverity : Severity.ofChars? cs = none := by
    rw [Severity.ofChars?, hnumber]
    refine List.find?_eq_none.mpr fun s _ => ?_
    rw [Severity.isNamed, h]
    cases s <;> decide
  rw [ofChars?, hnumber, hseverity, if_neg (Option.some_ne_none 0).symm]
  exact if_pos h

lemma ofChars?_of_zero (h : unsigned? cs = some 0) : ofChars? cs = some none :=
  if_pos h

lemma ofChars?_eq_some_iff : ofChars? cs = some t ↔ t.Spelled cs := by
  have hten : 0 < 10 := by decide
  constructor
  · intro h
    -- zero comes first, then the severities, and a text that is neither may still spell off
    unfold ofChars? at h
    split at h
    next hzero =>
      cases h
      obtain ⟨zeros, rfl | rfl⟩ := (unsigned?_eq_some_iff hten).mp hzero
      exacts [.zero zeros, .signedZero zeros]
    next =>
      split at h
      next s hs =>
        cases h
        exact .severity (Severity.ofChars?_eq_some_iff.mp hs)
      next =>
        split at h
        next hoff =>
          cases h
          exact .off (isOff_iff.mp hoff)
        next => cases h
  · intro h
    cases h with
    | severity h => rw [ofChars?, if_neg h.unsigned?_ne_zero, Severity.ofChars?_eq_some_iff.mpr h]
    | off h => exact ofChars?_of_isOff (isOff_iff.mpr h)
    | zero zeros =>
      exact ofChars?_of_zero ((unsigned?_eq_some_iff hten).mpr ⟨zeros, .inl rfl⟩)
    | signedZero zeros =>
      exact ofChars?_of_zero ((unsigned?_eq_some_iff hten).mpr ⟨zeros, .inr rfl⟩)

lemma ofChars?_eq_none_iff : ofChars? cs = none ↔ ∀ t : Threshold, ¬ t.Spelled cs := by
  simp only [Option.eq_none_iff_forall_ne_some, ← ofChars?_eq_some_iff, ne_eq]

lemma Spelled.forall_isWordChar (h : t.Spelled cs) : ∀ c ∈ cs, isWordChar c := by
  have hzero : isWordChar '0' := by decide
  have hplus : isWordChar '+' := by decide
  cases h with
  | severity h => exact h.forall_isWordChar
  | off h =>
    have hoff : "off".toList.all fun c => isWordChar c ∧ isWordChar c.toUpper := by decide
    exact Severity.forall_of_forall₂_toUpper h fun c hc =>
      of_decide_eq_true (List.all_eq_true.mp hoff c hc)
  | zero zeros => simp_all [List.mem_replicate, or_imp]
  | signedZero zeros => simp_all [List.mem_replicate, or_imp]

lemma Spelled.ne_nil (h : t.Spelled cs) : cs ≠ [] := by
  rintro rfl
  rw [← ofChars?_eq_some_iff] at h
  cases h

end Threshold

/-! ### Directives without brackets -/

namespace Directive

variable {d : Directive} {t : Threshold} {cs text level : List Char}

/-- What a directive can say that targets start with. -/
structure IsTarget (cs : List Char) : Prop where
  start : cs.head?.any isStart
  blanks : ∀ c ∈ cs, ¬ isBlank c
  marks : ∀ c ∈ cs, c ≠ ',' ∧ c ≠ '=' ∧ c ≠ '['

/-- Directives without brackets, and the texts that they are written as. -/
inductive Written : Directive → List Char → Prop
  /-- A level for all targets, without a sign before its number. -/
  | level {t : Threshold} {cs : List Char} (h : t.Spelled cs) (hsign : cs.head? ≠ some '+') :
    Written { threshold := t } cs
  /-- A target of which everything is let through; it cannot be spelled as a level. -/
  | target {cs : List Char} (hcs : IsTarget cs) (hlevel : ∀ t : Threshold, ¬ t.Spelled cs) :
    Written { target := some cs } cs
  | targetLevel {t : Threshold} {cs level : List Char} (hcs : IsTarget cs) (h : t.Spelled level) :
    Written { target := some cs, threshold := t } (cs ++ '=' :: level)

lemma isTarget_of_all (hstart : cs.head?.any isStart)
    (h : cs.all fun c => ¬ isBlank c ∧ c ≠ ',' ∧ c ≠ '=' ∧ c ≠ '[') : IsTarget cs := by
  have hcs (c : Char) (hc : c ∈ cs) := of_decide_eq_true (List.all_eq_true.mp h c hc)
  exact ⟨hstart, fun c hc => (hcs c hc).1, fun c hc => (hcs c hc).2⟩

lemma isStart_of_isAlphanum {c : Char} (h : c.isAlphanum) : isStart c := by
  have hranges : isAlphanumeric c := by
    rw [isAlphanumeric, inRanges_iff]
    obtain hdigit | hupper | hlower := toNat_of_isAlphanum h
    · exact ⟨_, .head _, hdigit⟩
    · exact ⟨_, .tail _ (.head _), hupper⟩
    · exact ⟨_, .tail _ (.tail _ (.head _)), hlower⟩
  simp [isStart, hranges]

lemma not_isMark_of_isWordChar {c : Char} (h : isWordChar c) : c ≠ ',' ∧ c ≠ '=' ∧ c ≠ '[' := by
  refine ⟨?_, ?_, ?_⟩
  all_goals
    rintro rfl
    exact absurd h (by decide)

/-- An unsigned level looks like a target. -/
lemma isTarget_of_spelled (h : t.Spelled cs) (hsign : cs.head? ≠ some '+') : IsTarget cs := by
  have hword := h.forall_isWordChar
  refine ⟨?_, fun c hc => not_isBlank_of_isWordChar (hword c hc),
    fun c hc => not_isMark_of_isWordChar (hword c hc)⟩
  cases cs with
  | nil => exact absurd rfl h.ne_nil
  | cons c cs =>
    obtain hplus | hc := Bool.or_eq_true_iff.mp (hword c List.mem_cons_self)
    · exact absurd (congrArg some (of_decide_eq_true hplus)) hsign
    · exact isStart_of_isAlphanum hc

lemma splitBytes?_append (before after : List Char) :
    splitBytes? (utf8Length before) (before ++ after) = some (before, after) := by
  induction before with
  | nil => simp [utf8Length, splitBytes?]
  | cons c before ih =>
    have hpos : 0 < c.utf8Size := c.utf8Size_pos
    -- the bytes are counted down from a successor, also for the first character
    obtain ⟨n, hn⟩ : ∃ n, utf8Length (c :: before) = n + 1 :=
      Nat.exists_eq_succ_of_ne_zero (Nat.add_pos_left hpos _).ne'
    have hlength : n + 1 = c.utf8Size + utf8Length before := hn.symm
    have hrest : n + 1 - c.utf8Size = utf8Length before := by omega
    rw [hn, List.cons_append, splitBytes?, if_pos (by omega), hrest, ih]
    rfl

lemma cutFrom_append (before after : List Char) :
    cutFrom (before ++ after) (utf8Length before) = .ok after := by
  rw [cutFrom, splitBytes?_append]

lemma cut_append (before after : List Char) :
    cut (before ++ after) 0 (utf8Length before) = .ok before := by
  have hfrom : cutFrom (before ++ after) 0 = .ok (before ++ after) := cutFrom_append [] _
  simp only [cut, hfrom, Nat.sub_zero, splitBytes?_append, bind, Except.bind]

lemma takeWhile_append (hcs : IsTarget cs) (rest : List Char) :
    (cs ++ rest).takeWhile (fun c => c ≠ '=' && c ≠ '[') =
      cs ++ rest.takeWhile fun c => c ≠ '=' && c ≠ '[' :=
  List.takeWhile_append_of_pos fun c hc => by simp [hcs.marks c hc]

lemma withLevel_append (h : t.Spelled level) (before : List Char) :
    d.withLevel (before ++ level) (utf8Length before) = .ok { d with threshold := t } := by
  simp only [withLevel, cutFrom_append, bind, Except.bind, h.ne_nil, if_false,
    Threshold.ofChars?_eq_some_iff.mpr h]

/-- A text that begins like a target is read by what comes after the target: nothing, or a level
after an equals sign. -/
lemma parse_append {rest : List Char} (hcs : IsTarget cs) (hblanks : ∀ c ∈ rest, ¬ isBlank c)
    (hrest : rest.head?.all (· = '=')) :
    parse (cs ++ rest) =
      if rest = [] then .ok (ofWord cs)
      else withLevel { target := some cs } (cs ++ rest) (utf8Length cs + 1) := by
  have htrim : trim (cs ++ rest) = cs ++ rest := trim_eq_self fun c hc =>
    (List.mem_append.mp hc).elim (hcs.blanks c) (hblanks c)
  have hhead : (cs ++ rest).takeWhile (fun c => c ≠ '=' && c ≠ '[') = cs := by
    rw [takeWhile_append hcs]
    cases rest with
    | nil => exact List.append_nil cs
    | cons c rest =>
      rw [List.takeWhile_cons_of_neg (by simp [of_decide_eq_true hrest]), List.append_nil]
  have hstart : (cs ++ rest).head?.any isStart := by
    cases cs with
    | nil => exact absurd hcs.start (by decide)
    | cons c cs => exact hcs.start
  unfold parse
  rw [htrim]
  split
  -- neither an empty text nor one that a bracket opens begins like a target
  next heq => simp [heq] at hstart
  next heq =>
    rw [heq, List.head?_cons, Option.any_some] at hstart
    exact absurd hstart (by decide +kernel)
  next c cs' _ heq =>
    rw [heq, List.head?_cons, Option.any_some] at hstart
    rw [if_pos hstart, ← heq]
    dsimp only
    rw [hhead, List.drop_left]
    cases rest with
    | nil => simp
    | cons c rest =>
      obtain rfl : c = '=' := of_decide_eq_true hrest
      simp only [cut_append, bind, Except.bind]
      rfl

lemma parse_target (hcs : IsTarget cs) : parse cs = .ok (ofWord cs) := by
  have hparse := parse_append hcs (List.forall_mem_nil _) rfl
  rwa [List.append_nil, if_pos rfl] at hparse

lemma Written.parse_eq (h : d.Written text) : parse text = .ok d := by
  cases h with
  | level h hsign =>
    rw [parse_target (isTarget_of_spelled h hsign), ofWord, Threshold.ofChars?_eq_some_iff.mpr h]
  | target hcs hlevel =>
    rw [parse_target hcs, ofWord, Threshold.ofChars?_eq_none_iff.mpr hlevel]
  | @targetLevel t cs level hcs h =>
    have hblanks : ∀ c ∈ '=' :: level, ¬ isBlank c := List.forall_mem_cons.mpr
      ⟨by decide, fun c hc => not_isBlank_of_isWordChar (h.forall_isWordChar c hc)⟩
    -- the level is looked for behind the equals sign, so that the sign belongs to what is cut off
    have hlength : utf8Length cs + 1 = utf8Length (cs ++ ['=']) := (utf8Length_append cs ['=']).symm
    rw [parse_append hcs hblanks rfl, if_neg (List.cons_ne_nil '=' level), hlength,
      List.append_cons, withLevel_append h]

/-- The texts have neither commas nor brackets, and are not empty. -/
lemma Written.plain (h : d.Written text) : text ≠ [] ∧ ',' ∉ text ∧ '[' ∉ text := by
  have htarget {cs : List Char} (hcs : IsTarget cs) : ',' ∉ cs ∧ '[' ∉ cs :=
    ⟨fun h => (hcs.marks _ h).1 rfl, fun h => (hcs.marks _ h).2.2 rfl⟩
  cases h with
  | level h hsign => exact ⟨h.ne_nil, htarget (isTarget_of_spelled h hsign)⟩
  | target hcs =>
    refine ⟨?_, htarget hcs⟩
    rintro rfl
    exact absurd hcs.start (by decide)
  | @targetLevel t cs level hcs h =>
    have hmarks := fun c hc => not_isMark_of_isWordChar (h.forall_isWordChar c hc)
    have hcomma : ',' ∉ level := fun hc => (hmarks _ hc).1 rfl
    have hbracket : '[' ∉ level := fun hc => (hmarks _ hc).2.2 rfl
    simp [hcomma, hbracket, htarget hcs]

end Directive

/-! ### Lists of directives -/

namespace Filter

variable {ds : List Directive} {texts : List (List Char)}

/-- The texts are those of the directives, in the same order, with empty ones between them. -/
inductive Listed : List Directive → List (List Char) → Prop
  | nil : Listed [] []
  | empty {ds : List Directive} {texts : List (List Char)} :
    Listed ds texts → Listed ds ([] :: texts)
  | written {d : Directive} {text : List Char} {ds : List Directive} {texts : List (List Char)} :
    d.Written text → Listed ds texts → Listed (d :: ds) (text :: texts)

lemma Listed.directivesOf?_eq (h : Listed ds texts) :
    directivesOf? (texts.filter (· ≠ [])) = some ds := by
  induction h with
  | nil => rfl
  | empty _ ih => exact ih
  | written hd _ ih =>
    rw [List.filter_cons_of_pos (by simpa using hd.plain.1), directivesOf?, hd.parse_eq, ih]
    rfl

lemma Listed.plain (h : Listed ds texts) : ∀ text ∈ texts, ',' ∉ text ∧ '[' ∉ text := by
  induction h with
  | nil => nofun
  | empty _ ih => exact List.forall_mem_cons.mpr ⟨⟨nofun, nofun⟩, ih⟩
  | written hd _ ih => exact List.forall_mem_cons.mpr ⟨hd.plain.2, ih⟩

lemma Listed.bracket_notMem (h : Listed ds texts) :
    '[' ∉ (String.ofList ([','].intercalate texts)).toList := by
  intro hmem
  rw [String.toList_ofList] at hmem
  obtain hcomma | ⟨text, htext, hbracket⟩ := mem_intercalate hmem
  · exact absurd hcomma (by decide)
  · exact (h.plain text htext).2 hbracket

/-- Listed directives are a filter, and it has exactly them; if there is none, only errors pass. -/
theorem ofText?_of_listed (h : Listed ds texts) :
    ofText? (String.ofList ([','].intercalate texts)) =
      some (if ds = [] then upTo .error else ⟨ds⟩) := by
  have hpieces : (pieces ',' ([','].intercalate texts)).filter (· ≠ []) =
      texts.filter (· ≠ []) := by
    cases texts with
    | nil => rfl
    | cons text texts =>
      rw [pieces_eq_splitOn, List.splitOn_intercalate ',' (fun t ht => (h.plain t ht).1)
        (List.cons_ne_nil text texts)]
  rw [ofText?, String.toList_ofList, hpieces, h.directivesOf?_eq]
  rfl

end Filter

end Logging

end PppoeSetup
