import XianyuAdmin.Core.Python

/-!
# Placeholders in braces

A placeholder is a name in braces.  As names have no braces, two placeholders
in a text never overlap, and a text is read in one way as characters and
placeholders.  Replacing placeholders one after the other gives the same as
replacing them at once as long as no replacement adds a placeholder that is
still to be replaced.
-/

namespace XianyuAdmin.Placeholders

open XianyuAdmin.Python

def token (name : String) : List Char := '\x7b' :: (name.toList ++ ['\x7d'])

def IsName (name : String) : Prop := '\x7b' ∉ name.toList ∧ '\x7d' ∉ name.toList

instance (name : String) : Decidable (IsName name) := inferInstanceAs (Decidable (_ ∧ _))

/-- The positions at which `needle` stands. -/
def occurrences (needle : List Char) : List Char → ℕ
  | [] => 0
  | char :: chars =>
      (if needle.isPrefixOf (char :: chars) then 1 else 0) + occurrences needle chars

theorem isPrefixOf_append (front rest : List Char) : front.isPrefixOf (front ++ rest) = true := by
  rw [List.isPrefixOf_iff_prefix]
  exact List.prefix_append front rest

variable {name : String} {entries : List (String × String)}

/-- Placeholders that start at the same position are the same. -/
theorem isPrefixOf_token_iff {other : String} (hname : IsName name) (hother : IsName other)
    (rest : List Char) : (token name).isPrefixOf (token other ++ rest) = true ↔ name = other := by
  rw [List.isPrefixOf_iff_prefix]
  refine ⟨fun hprefix => ?_, fun hsame => hsame ▸ List.prefix_append _ _⟩
  obtain ⟨tail, htail⟩ := hprefix
  have hbody : name.toList ++ '\x7d' :: tail = other.toList ++ '\x7d' :: rest := by
    simpa [token] using htail
  have htakeWhile : ∀ {text : String} (after : List Char), IsName text →
      (text.toList ++ '\x7d' :: after).takeWhile (fun char => char ≠ '\x7d') = text.toList := by
    intro text after htext
    rw [List.takeWhile_append_of_pos]
    · simp
    · intro char hchar
      exact decide_eq_true fun hbrace => htext.2 (hbrace ▸ hchar)
  have hnames := congrArg (List.takeWhile fun char => char ≠ '\x7d') hbody
  rw [htakeWhile tail hname, htakeWhile rest hother] at hnames
  exact String.toList_inj.mp hnames

theorem isPrefixOf_token_cons {char : Char} (hchar : char ≠ '\x7b') (chars : List Char) :
    (token name).isPrefixOf (char :: chars) = false := by
  simp [token, List.isPrefixOf, hchar.symm]

/-- No placeholder starts in a text without an opening brace. -/
theorem occurrences_append_of_not_mem (name : String) {front : List Char}
    (hfront : '\x7b' ∉ front) (rest : List Char) :
    occurrences (token name) (front ++ rest) = occurrences (token name) rest := by
  induction front with
  | nil => rfl
  | cons char front ih =>
      rw [List.mem_cons, not_or] at hfront
      rw [List.cons_append, occurrences, isPrefixOf_token_cons (Ne.symm hfront.1), ih hfront.2]
      simp

theorem not_mem_body (hname : IsName name) : '\x7b' ∉ name.toList ++ ['\x7d'] := by
  rw [List.mem_append, not_or]
  exact ⟨hname.1, by decide⟩

theorem occurrences_token_append {other : String} (hname : IsName name) (hother : IsName other)
    (rest : List Char) :
    occurrences (token name) (token other ++ rest) =
      (if name = other then 1 else 0) + occurrences (token name) rest := by
  have hfirst := isPrefixOf_token_iff hname hother rest
  have hrest := occurrences_append_of_not_mem name (not_mem_body hother) rest
  have hcons : token other ++ rest = '\x7b' :: ((other.toList ++ ['\x7d']) ++ rest) := rfl
  rw [hcons] at hfirst ⊢
  rw [occurrences, hrest]
  by_cases hsame : name = other
  · rw [if_pos hsame, if_pos (hfirst.mpr hsame)]
  · rw [if_neg hsame, if_neg fun hprefix => hsame (hfirst.mp hprefix)]

theorem occurrences_le_append (needle front rest : List Char) :
    occurrences needle rest ≤ occurrences needle (front ++ rest) := by
  induction front with
  | nil => exact le_rfl
  | cons char front ih => exact ih.trans (Nat.le_add_left _ _)

/-- What a text consists of. -/
inductive Part
  | char (char : Char)
  | placeholder (name : String)
  deriving DecidableEq

/-- A text as characters and placeholders; `skip` characters belong to a placeholder that
was read. -/
def parse (names : List String) : ℕ → List Char → List Part
  | _, [] => []
  | skip + 1, _ :: chars => parse names skip chars
  | 0, char :: chars =>
      match names.find? fun name => (token name).isPrefixOf (char :: chars) with
      | some name => Part.placeholder name :: parse names ((token name).length - 1) chars
      | none => Part.char char :: parse names 0 chars

/-- The text with what `value` gives for each placeholder. -/
def expand (value : String → List Char) (parts : List Part) : List Char :=
  parts.flatMap fun part =>
    match part with
    | .char char => [char]
    | .placeholder name => value name

/-- Every placeholder of the text is replaced at once. -/
def substitute (names : List String) (value : String → List Char) (text : List Char) :
    List Char :=
  expand value (parse names 0 text)

@[simp]
theorem expand_char (value : String → List Char) (char : Char) (parts : List Part) :
    expand value (Part.char char :: parts) = char :: expand value parts := rfl

@[simp]
theorem expand_name (value : String → List Char) (name : String) (parts : List Part) :
    expand value (Part.placeholder name :: parts) = value name ++ expand value parts := rfl

theorem parse_append (names : List String) (front rest : List Char) :
    parse names front.length (front ++ rest) = parse names 0 rest := by
  induction front with
  | nil => rfl
  | cons char front ih => exact ih

/-- A text that begins with a placeholder, or with a character that begins none. -/
theorem parse_cases (names : List String) (char : Char) (chars : List Char) :
    (∃ name ∈ names, ∃ rest, char :: chars = token name ++ rest ∧
        parse names 0 (char :: chars) = Part.placeholder name :: parse names 0 rest) ∨
      (∀ name ∈ names, (token name).isPrefixOf (char :: chars) = false) ∧
        parse names 0 (char :: chars) = Part.char char :: parse names 0 chars := by
  cases hfind : names.find? fun name => (token name).isPrefixOf (char :: chars) with
  | some name =>
      have hprefix : (token name).isPrefixOf (char :: chars) = true := by
        simpa using List.find?_some hfind
      obtain ⟨rest, hrest⟩ := List.isPrefixOf_iff_prefix.mp hprefix
      refine .inl ⟨name, List.mem_of_find?_eq_some hfind, rest, hrest.symm, ?_⟩
      have hchars : chars = (name.toList ++ ['\x7d']) ++ rest := by
        simpa [token] using (List.cons.inj hrest).2.symm
      have hskip := parse_append names (name.toList ++ ['\x7d']) rest
      rw [← hchars] at hskip
      have hlength : (token name).length - 1 = (name.toList ++ ['\x7d']).length := rfl
      rw [parse, hfind]
      dsimp only
      rw [hlength, hskip]
  | none =>
      refine .inr ⟨fun name hname => ?_, by rw [parse, hfind]⟩
      exact Bool.eq_false_iff.mpr (List.find?_eq_none.mp hfind name hname)

/-- Reading loses nothing. -/
theorem substitute_token (names : List String) (text : List Char) :
    substitute names token text = text := by
  induction hlength : text.length using Nat.strong_induction_on generalizing text with
  | _ length ih =>
      cases text with
      | nil => rfl
      | cons char chars =>
          rcases parse_cases names char chars with ⟨name, -, rest, hrest, hparse⟩ | ⟨-, hparse⟩
          · have hshorter : rest.length < length := by
              rw [← hlength, hrest, List.length_append, token, List.length_cons]
              omega
            have hread := ih rest.length hshorter rest rfl
            rw [substitute] at hread
            rw [substitute, hparse, expand_name, hread, hrest]
          · have hread := ih chars.length (by rw [← hlength]; exact Nat.lt_succ_self _) chars rfl
            rw [substitute] at hread
            rw [substitute, hparse, expand_char, hread]

/-- Reading finds every placeholder. -/
theorem count_parse {names : List String} (hnames : ∀ name ∈ names, IsName name)
    (hname : name ∈ names) (text : List Char) :
    (parse names 0 text).count (Part.placeholder name) = occurrences (token name) text := by
  induction hlength : text.length using Nat.strong_induction_on generalizing text with
  | _ length ih =>
      cases text with
      | nil => rfl
      | cons char chars =>
          rcases parse_cases names char chars with
            ⟨other, hother, rest, hrest, hparse⟩ | ⟨hnone, hparse⟩
          · have hshorter : rest.length < length := by
              rw [← hlength, hrest, List.length_append, token, List.length_cons]
              omega
            rw [hparse, hrest, occurrences_token_append (hnames name hname) (hnames other hother),
              List.count_cons, ih rest.length hshorter rest rfl, Nat.add_comm]
            by_cases hsame : name = other
            · simp [hsame]
            · simp [hsame, Ne.symm hsame]
          · rw [hparse, List.count_cons_of_ne (by simp), occurrences, hnone name hname,
              ih chars.length (by rw [← hlength]; exact Nat.lt_succ_self _) chars rfl]
            simp

theorem replaceChars_append (needle replacement front rest : List Char) :
    replaceChars needle replacement front.length (front ++ rest) =
      replaceChars needle replacement 0 rest := by
  induction front with
  | nil => rfl
  | cons char front ih => exact ih

theorem replaceChars_token_append (name : String) (replacement rest : List Char) :
    replaceChars (token name) replacement 0 (token name ++ rest) =
      replacement ++ replaceChars (token name) replacement 0 rest := by
  have hskip := replaceChars_append (token name) replacement (name.toList ++ ['\x7d']) rest
  have hcons : token name ++ rest = '\x7b' :: ((name.toList ++ ['\x7d']) ++ rest) := rfl
  have hfirst := isPrefixOf_append (token name) rest
  rw [hcons] at hfirst ⊢
  rw [replaceChars, if_pos hfirst]
  exact congrArg (replacement ++ ·) hskip

theorem replaceChars_append_of_occurrences {needle : List Char} (replacement front rest : List Char)
    (hcount : occurrences needle (front ++ rest) = occurrences needle rest) :
    replaceChars needle replacement 0 (front ++ rest) =
      front ++ replaceChars needle replacement 0 rest := by
  induction front with
  | nil => rfl
  | cons char front ih =>
      have hle := occurrences_le_append needle front rest
      rw [List.cons_append, occurrences] at hcount
      have hfirst : needle.isPrefixOf (char :: (front ++ rest)) = false := by
        by_contra hprefix
        rw [if_pos (by simpa using hprefix)] at hcount
        omega
      rw [hfirst] at hcount
      rw [List.cons_append, replaceChars, hfirst, ih (by simpa using hcount)]
      rfl

section Expanding

variable {name : String} {value : String → List Char}

/-- The placeholders that were read stay in the text as long as they are not replaced. -/
theorem count_le_occurrences_expand (hname : IsName name) (hvalue : value name = token name)
    (parts : List Part) :
    parts.count (.placeholder name) ≤ occurrences (token name) (expand value parts) := by
  induction parts with
  | nil => exact le_rfl
  | cons part parts ih =>
      cases part with
      | char char =>
          rw [List.count_cons_of_ne (by simp), expand_char]
          exact ih.trans (Nat.le_add_left _ _)
      | placeholder other =>
          rw [expand_name]
          by_cases hsame : other = name
          · rw [hsame, List.count_cons_self, hvalue, occurrences_token_append hname hname, if_pos rfl,
              Nat.add_comm]
            exact Nat.add_le_add_left ih 1
          · rw [List.count_cons_of_ne (by simpa using hsame)]
            exact ih.trans (occurrences_le_append _ _ _)

theorem replaceChars_expand (hname : IsName name) (hvalue : value name = token name)
    (replacement : List Char) (parts : List Part)
    (hcount : occurrences (token name) (expand value parts) = parts.count (.placeholder name)) :
    replaceChars (token name) replacement 0 (expand value parts) =
      expand (Function.update value name replacement) parts := by
  induction parts with
  | nil => rfl
  | cons part parts ih =>
      have hle := count_le_occurrences_expand hname hvalue parts
      cases part with
      | char char =>
          rw [List.count_cons_of_ne (by simp), expand_char] at hcount
          have hmore := occurrences_le_append (token name) [char] (expand value parts)
          rw [List.singleton_append, hcount] at hmore
          have hrest := le_antisymm hmore hle
          have hfront := replaceChars_append_of_occurrences replacement [char] (expand value parts)
            (by rw [List.singleton_append, hcount, hrest])
          rw [List.singleton_append, ih hrest] at hfront
          exact hfront
      | placeholder other =>
          rw [expand_name] at hcount ⊢
          rw [expand_name]
          by_cases hsame : other = name
          · subst hsame
            rw [List.count_cons_self, hvalue, occurrences_token_append hname hname, if_pos rfl,
              Nat.add_comm] at hcount
            rw [hvalue, replaceChars_token_append, ih (Nat.add_right_cancel hcount),
              Function.update_self]
          · rw [List.count_cons_of_ne (by simpa using hsame)] at hcount
            have hmore := occurrences_le_append (token name) (value other) (expand value parts)
            rw [hcount] at hmore
            have hrest := le_antisymm hmore hle
            rw [replaceChars_append_of_occurrences replacement _ _ (by rw [hcount, hrest]), ih hrest,
              Function.update_of_ne hsame]

end Expanding

def replaceEach (entries : List (String × String)) (text : List Char) : List Char :=
  entries.foldl (fun text entry => replaceChars (token entry.1) entry.2.toList 0 text) text

def putIn (entries : List (String × String)) (name : String) : List Char :=
  ((entries.lookup name).map String.toList).getD (token name)

theorem replaceEach_concat (entries : List (String × String)) (entry : String × String)
    (text : List Char) :
    replaceEach (entries ++ [entry]) text =
      replaceChars (token entry.1) entry.2.toList 0 (replaceEach entries text) := by
  simp [replaceEach]

theorem lookup_eq_none_of_not_mem (hnew : name ∉ entries.map Prod.fst) :
    entries.lookup name = none := by
  rw [List.lookup_eq_none_iff]
  intro other hother
  rw [bne_iff_ne]
  exact fun hsame => hnew (hsame ▸ List.mem_map_of_mem hother)

/-- Entries of different names may be looked up in any order. -/
theorem lookup_perm {left right : List (String × String)} (hperm : left.Perm right)
    (hnodup : (left.map Prod.fst).Nodup) (name : String) :
    left.lookup name = right.lookup name := by
  induction hperm with
  | nil => rfl
  | cons entry hperm ih =>
      rw [List.map_cons, List.nodup_cons] at hnodup
      simp only [List.lookup, ih hnodup.2]
  | swap first second rest =>
      have hne : second.1 ≠ first.1 := by
        simp only [List.map_cons, List.nodup_cons, List.mem_cons, not_or] at hnodup
        exact hnodup.1.1
      by_cases hfirst : name = first.1
      · have hsecond : (name == second.1) = false :=
          beq_eq_false_iff_ne.mpr fun hsame => hne (hsame.symm.trans hfirst)
        simp only [List.lookup, hsecond]
      · have hfirst' : (name == first.1) = false := beq_eq_false_iff_ne.mpr hfirst
        simp only [List.lookup, hfirst']
  | trans hfirst hsecond ihFirst ihSecond =>
      exact (ihFirst hnodup).trans (ihSecond ((hfirst.map Prod.fst).nodup_iff.mp hnodup))

theorem putIn_concat {entry : String × String} (hnew : entry.1 ∉ entries.map Prod.fst) :
    putIn (entries ++ [entry]) = Function.update (putIn entries) entry.1 entry.2.toList := by
  funext name
  by_cases hsame : name = entry.1
  · rw [hsame, Function.update_self, putIn, List.lookup_append, lookup_eq_none_of_not_mem hnew]
    simp [List.lookup]
  · have hother : (name == entry.1) = false := beq_eq_false_iff_ne.mpr hsame
    rw [Function.update_of_ne hsame, putIn, putIn, List.lookup_append]
    simp [List.lookup, hother]

def Unchanged (name : String) (template text : List Char) : Prop :=
  occurrences (token name) text = occurrences (token name) template

instance (name : String) (template text : List Char) : Decidable (Unchanged name template text) :=
  inferInstanceAs (Decidable (_ = _))

theorem replaceEach_eq_substitute {names : List String} (hnames : ∀ name ∈ names, IsName name)
    (hkeys : ∀ entry ∈ entries, entry.1 ∈ names) (hnodup : (entries.map Prod.fst).Nodup)
    (template : List Char) (hsteps : ∀ before entry after, entries = before ++ entry :: after →
      Unchanged entry.1 template (replaceEach before template) ∨
        Unchanged entry.1 template (substitute names (putIn before) template)) :
    replaceEach entries template = substitute names (putIn entries) template := by
  induction entries using List.reverseRecOn with
  | nil => exact (substitute_token names template).symm
  | append_singleton entries entry ih =>
      have hbefore : replaceEach entries template = substitute names (putIn entries) template := by
        refine ih (fun other hother => hkeys other (List.mem_append_left _ hother)) ?_ ?_
        · rw [List.map_append] at hnodup
          exact hnodup.of_append_left
        · intro before other after hsplit
          refine hsteps before other (after ++ [entry]) ?_
          rw [hsplit, List.append_assoc, List.cons_append]
      have hnew : entry.1 ∉ entries.map Prod.fst := by
        rw [List.map_append] at hnodup
        exact fun hmem => List.disjoint_of_nodup_append hnodup hmem (List.mem_singleton_self _)
      have hunchanged := hsteps entries entry [] rfl
      rw [hbefore, or_self] at hunchanged
      have hname := hkeys entry (List.mem_append_right _ (List.mem_singleton_self _))
      have hself : putIn entries entry.1 = token entry.1 := by
        rw [putIn, lookup_eq_none_of_not_mem hnew]
        rfl
      have hreplace := replaceChars_expand (hnames _ hname) hself entry.2.toList
        (parse names 0 template) (hunchanged.trans (count_parse hnames hname template).symm)
      rw [replaceEach_concat, hbefore, putIn_concat hnew]
      exact hreplace

end XianyuAdmin.Placeholders
