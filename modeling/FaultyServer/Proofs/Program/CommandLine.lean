import FaultyServer.CommandLine
import FaultyServer.Proofs.Except
import FaultyServer.Proofs.Yaml.Numeral
import Mathlib.Data.List.Induction
import Mathlib.Data.List.TakeWhile

/-!
# What a command line says

What command lines mean, said without the reader that checks them from left to right. A word is
spelled in one of a few ways (`Word.IsSpelled`); words say values for the port, the file and the
mode, up to their end or to a word that refuses the command line (`Says`); and values fit in if each
place has at most one and every one is proper (`Fits`).

The reader answers as these three say (`read_eq_iff`):

* a command line is accepted if its words say one port, at most one file and at most one mode
  (`read_eq_ok_iff`);
* help and the version are shown if a word asks for them and all that the words before it say is
  proper (`read_eq_refused_iff`);
* the usage is shown otherwise, in particular if there is not exactly one port
  (`read_eq_usage_of_port`).

The order in which the values come does not matter (`read_congr`).
-/

namespace FaultyServer

/-- A mode has one spelling on the command line. -/
theorem Mode.ofArgument?_eq_some_iff {text : String} {mode : Mode} :
    ofArgument? text false = some mode ↔ text = mode.argument := by
  constructor
  · intro h
    have hname := List.find?_some h
    exact (by simpa using hname : mode.argument = text).symm
  · rintro rfl
    rcases mode with _ | _ <;> rfl

namespace CommandLine

variable {s text : String} {cs : List Char} {slot : Slot} {refusal : Refusal}

/-- How a port is written: a decimal number below `2 ^ 16`, with a plus sign or without. -/
def IsPort (text : String) (port : UInt16) : Prop :=
  ∃ digits, (text.toList = digits ∨ text.toList = '+' :: digits) ∧
    Text.Denotes 10 digits port.toNat

theorem port?_eq_some_iff {port : UInt16} : port? text = some port ↔ IsPort text port := by
  have hread : ∀ digits, ((Text.natural? 10 digits).bind fun n =>
      if n < 65536 then some (UInt16.ofNat n) else none) = some port ↔
        Text.Denotes 10 digits port.toNat := by
    intro digits
    rw [Option.bind_eq_some_iff, ← Text.natural?_eq_some_iff_denotes (by decide)]
    constructor
    · rintro ⟨n, hn, h⟩
      split at h
      · next hlt =>
        obtain rfl := Option.some.inj h
        rwa [UInt16.toNat_ofNat_of_lt' hlt]
      · cases h
    · intro h
      exact ⟨_, h, by simp [port.toNat_lt]⟩
  -- A plus sign is no digit, so it is not part of the number.
  have hplus : ∀ rest, ¬ Text.Denotes 10 ('+' :: rest) port.toNat := by
    intro rest h
    have := List.all_eq_true.1 h.all_isDigit '+' List.mem_cons_self
    simp [Text.isDigit] at this
  rw [port?, IsPort]
  split
  · next rest htext =>
    rw [hread, htext]
    constructor
    · exact fun h => ⟨rest, .inr rfl, h⟩
    · rintro ⟨digits, rfl | hdigits, h⟩
      · exact absurd h (hplus rest)
      · rwa [(List.cons.inj hdigits).2]
  · next hother =>
    rw [hread]
    constructor
    · exact fun h => ⟨_, .inl rfl, h⟩
    · rintro ⟨digits, rfl | hdigits, h⟩
      · exact h
      · exact absurd hdigits (hother digits)

/-! ## Words -/

/-- The words that are no options. A single dash is none. -/
def IsPlain (s : String) : Prop :=
  s = "-" ∨ s.toList.head? ≠ some '-'

/-- How the words are spelled that have a meaning. A word that is spelled in none of these ways is
unknown. -/
def Word.IsSpelled (s : String) : Word → Prop
  | .value text => text = s ∧ IsPlain s
  | .separator => s = "--"
  | .open .file => s = "-c" ∨ s = "--cfg"
  | .open .mode => s = "--mode"
  | .filled .file text => s = "--cfg=" ++ text ∨ s = "-c=" ++ text ∨
      s = "-c" ++ text ∧ text ≠ "" ∧ text.toList.head? ≠ some '='
  | .filled .mode text => s = "--mode=" ++ text
  | .refused (.help true) => s = "--help"
  | .refused (.help false) => ∃ rest, s = "-h" ++ rest
  | .refused .version => s = "--version" ∨ ∃ rest, s = "-V" ++ rest
  | .open .port | .filled .port _ | .refused .usage => False

theorem mayBeValue_iff : mayBeValue s = true ↔ IsPlain s := by
  rw [IsPlain, ← String.toList_inj]
  rcases hs : s.toList with _ | ⟨c, _ | ⟨d, cs⟩⟩
  · simp [mayBeValue, hs]
  · by_cases hc : c = '-' <;> simp [mayBeValue, hs, hc]
  · by_cases hc : c = '-' <;> simp [mayBeValue, hs, hc]

/-- A long option without a value is its name. -/
theorem longWord_of_name (h : '=' ∉ cs) : longWord cs =
    if cs = "help".toList then .refused (.help true)
    else if cs = "version".toList then .refused .version
    else match longSlot? cs with
      | some slot => .open slot
      | none => .refused .usage := by
  have hall : ∀ c ∈ cs, (c != '=') = true := fun c hc => bne_iff_ne.2 fun heq => h (heq ▸ hc)
  rewrite [longWord, List.takeWhile_eq_self_iff.2 hall, List.dropWhile_eq_nil_iff.2 hall]
  rfl

/-- A long option with a value is its name, and behind the first equals sign its value. -/
theorem longWord_of_value {value : List Char} (h : '=' ∉ cs) :
    longWord (cs ++ '=' :: value) = match longSlot? cs with
      | some slot => .filled slot (String.ofList value)
      | none => .refused .usage := by
  have hall : ∀ c ∈ cs, (c != '=') = true := fun c hc => bne_iff_ne.2 fun heq => h (heq ▸ hc)
  have htake : (cs ++ '=' :: value).takeWhile (· != '=') = cs := by
    rw [List.takeWhile_append_of_pos hall]
    simp
  have hdrop : (cs ++ '=' :: value).dropWhile (· != '=') = '=' :: value := by
    rw [List.dropWhile_append_of_pos hall]
    simp
  rewrite [longWord, htake, hdrop]
  rfl

/-- The short option takes the rest of its word, whatever it is. -/
theorem shortWord_of_value (hne : cs ≠ []) (hhead : cs.head? ≠ some '=') :
    shortWord ('c' :: cs) = .filled .file (String.ofList cs) := by
  rw [shortWord]
  · exact hne
  · rintro rest rfl
    exact hhead rfl

theorem Word.of_plain (h : s.toList.head? ≠ some '-') : Word.of s = .value s := by
  rw [Word.of]
  split <;> simp_all

theorem Word.of_short (cs : List Char) (hs : s.toList = '-' :: cs) (h : cs.head? ≠ some '-') :
    Word.of s = shortWord cs := by
  rw [Word.of, hs]
  split <;> simp_all

theorem Word.of_long (cs : List Char) (hs : s.toList = '-' :: '-' :: cs) (h : cs ≠ []) :
    Word.of s = longWord cs := by
  rw [Word.of, hs]
  split
  · simp_all
  · simp_all
  · next hlong heq => exact (hlong _ (List.cons.inj heq).2.symm).elim
  · simp_all

/-- A word means what it is spelled as. -/
theorem Word.of_isSpelled {w : Word} (h : w.IsSpelled s) : Word.of s = w := by
  rcases w with text | _ | ⟨_ | _ | _, text⟩ | ⟨_ | _ | _⟩ | ⟨⟨_ | _⟩ | _ | _⟩
  case value =>
    obtain ⟨rfl, rfl | hhead⟩ := h
    · rfl
    · exact of_plain hhead
  case separator =>
    obtain rfl := h
    rfl
  case filled.port => exact h.elim
  case filled.file =>
    -- The value stands behind the first equals sign, so it may hold further ones.
    rcases h with rfl | rfl | ⟨rfl, hne, hhead⟩
    · rw [of_long ("cfg".toList ++ '=' :: text.toList) (by simp) (by simp),
        longWord_of_value (by decide), String.ofList_toList]
      rfl
    · rw [of_short ('c' :: '=' :: text.toList) (by simp) (by simp), shortWord,
        String.ofList_toList]
    · rw [of_short ('c' :: text.toList) (by simp) (by simp),
        shortWord_of_value (by simpa using hne) hhead, String.ofList_toList]
  case filled.mode =>
    obtain rfl := h
    rw [of_long ("mode".toList ++ '=' :: text.toList) (by simp) (by simp),
      longWord_of_value (by decide), String.ofList_toList]
    rfl
  case open.port => exact h.elim
  case open.file =>
    rcases h with rfl | rfl
    · rfl
    · rfl
  case open.mode =>
    obtain rfl := h
    rfl
  case refused.help.false =>
    obtain ⟨rest, rfl⟩ := h
    rw [of_short ('h' :: rest.toList) (by simp) (by simp), shortWord]
  case refused.help.true =>
    obtain rfl := h
    rfl
  case refused.version =>
    rcases h with rfl | ⟨rest, rfl⟩
    · rfl
    · rw [of_short ('V' :: rest.toList) (by simp) (by simp), shortWord]
  case refused.usage => exact h.elim

theorem eq_append_of_toList (start : String) {rest : List Char}
    (h : s.toList = start.toList ++ rest) : s = start ++ String.ofList rest := by
  rw [← String.toList_inj, h, String.toList_append, String.toList_ofList]

theorem shortWord_isSpelled (hs : s.toList = '-' :: cs) (h : shortWord cs ≠ .refused .usage) :
    (shortWord cs).IsSpelled s := by
  revert h
  rw [shortWord.eq_def]
  split
  · intro _
    have hdash : s = "-" := String.toList_inj.1 hs
    exact ⟨hdash.symm, .inl hdash⟩
  · exact fun _ => ⟨_, eq_append_of_toList "-h" hs⟩
  · exact fun _ => .inr ⟨_, eq_append_of_toList "-V" hs⟩
  · exact fun _ => .inl (String.toList_inj.1 hs)
  · exact fun _ => .inr (.inl (eq_append_of_toList "-c=" hs))
  · next value hne hhead =>
    intro _
    refine .inr (.inr ⟨eq_append_of_toList "-c" hs, by simpa using hne, ?_⟩)
    rw [String.toList_ofList]
    exact fun hequals => hhead _ (List.eq_cons_of_mem_head? hequals)
  · exact fun h => absurd rfl h

theorem longSlot?_eq_some_iff : longSlot? cs = some slot ↔
    cs = "cfg".toList ∧ slot = .file ∨ cs = "mode".toList ∧ slot = .mode := by
  have hcfg : "cfg".toList = ['c', 'f', 'g'] := rfl
  have hmode : "mode".toList = ['m', 'o', 'd', 'e'] := rfl
  rw [longSlot?, hcfg, hmode]
  split
  · simp_all [eq_comm]
  · split <;> simp_all [eq_comm]

theorem longWord_isSpelled (hs : s.toList = '-' :: '-' :: cs) (h : longWord cs ≠ .refused .usage) :
    (longWord cs).IsSpelled s := by
  revert h
  by_cases hequals : '=' ∈ cs
  · obtain ⟨name, value, rfl, hname⟩ := List.eq_append_cons_of_mem hequals
    rw [longWord_of_value hname]
    split
    · next slot hslot =>
      intro _
      rcases longSlot?_eq_some_iff.1 hslot with ⟨rfl, rfl⟩ | ⟨rfl, rfl⟩
      · exact .inl (eq_append_of_toList "--cfg=" hs)
      · exact eq_append_of_toList "--mode=" hs
    · exact fun h => absurd rfl h
  · rw [longWord_of_name hequals]
    split
    · next hhelp =>
      obtain rfl := hhelp
      exact fun _ => String.toList_inj.1 hs
    · split
      · next hversion =>
        obtain rfl := hversion
        exact fun _ => .inl (String.toList_inj.1 hs)
      · split
        · next slot hslot =>
          intro _
          rcases longSlot?_eq_some_iff.1 hslot with ⟨rfl, rfl⟩ | ⟨rfl, rfl⟩
          · exact .inr (String.toList_inj.1 hs)
          · exact String.toList_inj.1 hs
        · exact fun h => absurd rfl h

/-- A word has no meaning but the one that it is spelled as. -/
theorem Word.isSpelled_of (h : Word.of s ≠ .refused .usage) : (Word.of s).IsSpelled s := by
  by_cases hhead : s.toList.head? = some '-'
  · obtain ⟨cs, hs⟩ := List.head?_eq_some_iff.1 hhead
    by_cases hlong : cs.head? = some '-'
    · obtain ⟨name, rfl⟩ := List.head?_eq_some_iff.1 hlong
      rcases eq_or_ne name [] with rfl | hname
      · obtain rfl : s = "--" := String.toList_inj.1 hs
        rfl
      · rw [of_long name hs hname] at h ⊢
        exact longWord_isSpelled hs h
    · rw [of_short cs hs hlong] at h ⊢
      exact shortWord_isSpelled hs h
  · rw [of_plain hhead]
    exact ⟨rfl, .inr hhead⟩

theorem Word.of_eq_usage (h : ∀ w, ¬ Word.IsSpelled s w) : Word.of s = .refused .usage := by
  by_contra hknown
  exact h _ (isSpelled_of hknown)

/-! ## Command lines -/

/-- What the words of a command line say, one after the other: values for the port, the file and the
mode, up to the end or to a word that refuses the command line. The first argument is whether a
double dash has come before, so that each word is a value for the port. -/
inductive Says : Bool → List String → List (Slot × String) → Option Refusal → Prop
  | nothing {closed : Bool} : Says closed [] [] none
  | verbatim {s : String} {rest : List String} {items : List (Slot × String)}
      {ending : Option Refusal} : Says true rest items ending →
        Says true (s :: rest) ((.port, s) :: items) ending
  | value {s text : String} {rest : List String} {items : List (Slot × String)}
      {ending : Option Refusal} : Word.IsSpelled s (.value text) → Says false rest items ending →
        Says false (s :: rest) ((.port, text) :: items) ending
  | separator {s : String} {rest : List String} {items : List (Slot × String)}
      {ending : Option Refusal} : Word.IsSpelled s .separator → Says true rest items ending →
        Says false (s :: rest) items ending
  | filled {s text : String} {slot : Slot} {rest : List String} {items : List (Slot × String)}
      {ending : Option Refusal} : Word.IsSpelled s (.filled slot text) →
        Says false rest items ending → Says false (s :: rest) ((slot, text) :: items) ending
  | apart {s value : String} {slot : Slot} {rest : List String} {items : List (Slot × String)}
      {ending : Option Refusal} : Word.IsSpelled s (.open slot) → IsPlain value →
        Says false rest items ending → Says false (s :: value :: rest) ((slot, value) :: items) ending
  /-- An option lacks its value. -/
  | unfilled {s : String} {slot : Slot} {rest : List String} : Word.IsSpelled s (.open slot) →
      (∀ value ∈ rest.head?, ¬ IsPlain value) → Says false (s :: rest) [] (some .usage)
  | refused {s : String} {refusal : Refusal} {rest : List String} :
      Word.IsSpelled s (.refused refusal) → Says false (s :: rest) [] (some refusal)
  | unknown {s : String} {rest : List String} : (∀ w, ¬ Word.IsSpelled s w) →
      Says false (s :: rest) [] (some .usage)

variable {words words' rest : List String} {items items' : List (Slot × String)}
  {ending : Option Refusal} {closed : Bool} {p q : Partial} {pending : Pending}

/-- Every command line says something. -/
theorem exists_items (closed : Bool) (words : List String) :
    ∃ items ending, Says closed words items ending := by
  -- An option may take the next word, too, so the induction is on the number of words.
  induction hn : words.length using Nat.strong_induction_on generalizing closed words with
  | _ n ih =>
    rcases words with _ | ⟨s, rest⟩
    · exact ⟨_, _, .nothing⟩
    · have hrest : ∀ closed, ∃ items ending, Says closed rest items ending :=
        fun closed => ih _ (by simp [← hn]) closed rest rfl
      rcases closed with _ | _
      · by_cases hspelled : ∃ w, Word.IsSpelled s w
        · obtain ⟨w, hw⟩ := hspelled
          rcases w with text | _ | ⟨slot, text⟩ | slot | refusal
          case value =>
            obtain ⟨items, ending, h⟩ := hrest false
            exact ⟨_, _, .value hw h⟩
          case separator =>
            obtain ⟨items, ending, h⟩ := hrest true
            exact ⟨_, _, .separator hw h⟩
          case filled =>
            obtain ⟨items, ending, h⟩ := hrest false
            exact ⟨_, _, .filled hw h⟩
          case «open» =>
            rcases rest with _ | ⟨value, rest⟩
            · exact ⟨_, _, .unfilled hw nofun⟩
            · by_cases hvalue : IsPlain value
              · have hlt : rest.length < n := by
                  rw [← hn, List.length_cons, List.length_cons]
                  omega
                obtain ⟨items, ending, h⟩ := ih _ hlt false rest rfl
                exact ⟨_, _, .apart hw hvalue h⟩
              · exact ⟨_, _, .unfilled hw (by rintro _ ⟨⟩; exact hvalue)⟩
          case refused => exact ⟨_, _, .refused hw⟩
        · exact ⟨_, _, .unknown (not_exists.1 hspelled)⟩
      · obtain ⟨items, ending, h⟩ := hrest true
        exact ⟨_, _, .verbatim h⟩

/-- Puts values into their places one after the other. -/
def putAll (p : Partial) (items : List (Slot × String)) : Except Refusal Partial :=
  items.foldlM (fun p item => p.put item.1 item.2) p

@[simp]
theorem putAll_nil : putAll p [] = .ok p := rfl

@[simp]
theorem putAll_cons {item : Slot × String} :
    putAll p (item :: items) = p.put item.1 item.2 >>= fun p => putAll p items := by
  rw [putAll, List.foldlM_cons]
  rfl

theorem putAll_append :
    putAll p (items ++ items') = putAll p items >>= fun p => putAll p items' := by
  rw [putAll, List.foldlM_append]
  rfl

@[simp]
theorem putAll_singleton (item : Slot × String) : putAll p [item] = p.put item.1 item.2 :=
  bind_pure (p.put item.1 item.2)

theorem settle_eq : settle p pending = putAll p pending.toList := by
  rcases pending with _ | ⟨slot, text⟩
  · rfl
  · exact (putAll_singleton (slot, text)).symm

/-- The value before a value is put into its place first. -/
theorem settle_bind {item : Slot × String} {β : Type} (f : Partial → Except Refusal β) :
    (settle p pending >>= fun p => putAll p ((some item).toList ++ items) >>= f) =
      putAll p (pending.toList ++ item :: items) >>= f := by
  rw [settle_eq, putAll_append, bind_assoc]
  rfl

/-- What comes of what has been read when the words are at their end or refuse the command line. -/
def finish (ending : Option Refusal) (p : Partial) : Except Refusal Partial :=
  match ending with
  | none => .ok p
  | some refusal => .error refusal

/-- The reader puts the values into their places that the words say, in their order, and only then
refuses the command line. -/
theorem readWords_eq (h : Says closed words items ending) :
    readWords p pending closed words = putAll p (pending.toList ++ items) >>= finish ending := by
  induction h generalizing p pending with
  | nothing =>
    rw [readWords, settle_eq, List.append_nil]
    exact (bind_pure _).symm
  | verbatim _ ih =>
    simp only [readWords, if_true, ih, settle_bind]
  | value hw _ ih =>
    simp only [readWords, Bool.false_eq_true, if_false, Word.of_isSpelled hw, ih, settle_bind]
  | separator hw _ ih =>
    simp only [readWords, Bool.false_eq_true, if_false, Word.of_isSpelled hw, ih]
  | filled hw _ ih =>
    simp only [readWords, Bool.false_eq_true, if_false, Word.of_isSpelled hw, ih, settle_bind]
  | apart hw hvalue _ ih =>
    simp only [readWords, Bool.false_eq_true, if_false, Word.of_isSpelled hw,
      mayBeValue_iff.2 hvalue, if_true, ih, settle_bind]
  | @unfilled _ _ rest hw hvalue =>
    simp only [readWords, Bool.false_eq_true, if_false, Word.of_isSpelled hw, settle_eq,
      List.append_nil]
    rcases rest with _ | ⟨value, rest⟩
    · rfl
    · simp only [mt mayBeValue_iff.1 (hvalue value rfl)]
      rfl
  | refused hw =>
    simp only [readWords, Bool.false_eq_true, if_false, Word.of_isSpelled hw, settle_eq,
      List.append_nil]
    rfl
  | unknown hw =>
    simp only [readWords, Bool.false_eq_true, if_false, Word.of_eq_usage hw, settle_eq,
      List.append_nil]
    rfl

/-! ## Arguments -/

/-- The values that are said for one place. -/
def valuesOf (slot : Slot) (items : List (Slot × String)) : List String :=
  (items.filter (·.1 = slot)).map (·.2)

/-- There is at most one text, and if there is one then this is what it says. -/
def Gives {α : Type} (Means : String → α → Prop) (texts : List String) (x : Option α) : Prop :=
  List.Forall₂ Means texts x.toList

/-- Each place has at most one value, and all values are proper. -/
@[mk_iff]
structure Fits (items : List (Slot × String)) (p : Partial) : Prop where
  port : Gives IsPort (valuesOf .port items) p.port
  file : Gives (fun text file => text ≠ "" ∧ file = text) (valuesOf .file items) p.file
  mode : Gives (fun text mode => text = Mode.argument mode) (valuesOf .mode items) p.mode

section Gives

variable {α : Type} {Means : String → α → Prop} {texts texts' : List String} {x : Option α}

theorem gives_none_iff : Gives Means texts none ↔ texts = [] :=
  List.forall₂_nil_right_iff

theorem gives_some_iff {a : α} :
    Gives Means texts (some a) ↔ ∃ text, texts = [text] ∧ Means text a := by
  simp [Gives, List.forall₂_cons_right_iff, and_comm]

/-- A further text is the only one. -/
theorem gives_concat_iff : Gives Means (texts ++ [text]) x ↔
    texts = [] ∧ ∃ a, Means text a ∧ x = some a := by
  rcases x with _ | a
  · simp [gives_none_iff]
  · simp [gives_some_iff, List.append_eq_singleton_iff]

/-- The order of the texts does not matter, as there is at most one. -/
theorem Gives.perm (hperm : texts.Perm texts') (h : Gives Means texts x) :
    Gives Means texts' x := by
  rcases x with _ | a
  · obtain rfl := gives_none_iff.1 h
    exact gives_none_iff.2 hperm.symm.eq_nil
  · obtain ⟨text, rfl, htext⟩ := gives_some_iff.1 h
    exact gives_some_iff.2 ⟨text, List.perm_singleton.1 hperm.symm, htext⟩

end Gives

theorem valuesOf_concat_self :
    valuesOf slot (items ++ [(slot, text)]) = valuesOf slot items ++ [text] := by
  simp [valuesOf]

theorem valuesOf_concat_of_ne {slot' : Slot} (h : slot' ≠ slot) :
    valuesOf slot (items ++ [(slot', text)]) = valuesOf slot items := by
  simp [valuesOf, h]

theorem fits_nil_iff : Fits [] p ↔ p = ⟨none, none, none⟩ := by
  rcases p with ⟨_ | port, _ | file, _ | mode⟩ <;>
    simp [fits_iff, valuesOf, gives_none_iff, gives_some_iff]

theorem put_port_eq_ok_iff : p.put .port text = .ok q ↔
    p.port = none ∧ ∃ port, IsPort text port ∧ q = { p with port := some port } := by
  simp only [← port?_eq_some_iff]
  rcases hport : p.port with _ | port <;> rcases htext : port? text with _ | port' <;>
    simp [Partial.put, hport, htext, @eq_comm _ _ q]

theorem put_file_eq_ok_iff : p.put .file text = .ok q ↔
    p.file = none ∧ ∃ file, (text ≠ "" ∧ file = text) ∧ q = { p with file := some file } := by
  rcases hfile : p.file with _ | file <;> by_cases htext : text = "" <;>
    simp [Partial.put, hfile, htext, @eq_comm _ _ q]

theorem put_mode_eq_ok_iff : p.put .mode text = .ok q ↔
    p.mode = none ∧ ∃ mode, text = Mode.argument mode ∧ q = { p with mode := some mode } := by
  simp only [← Mode.ofArgument?_eq_some_iff]
  rcases hmode : p.mode with _ | mode <;>
    rcases htext : Mode.ofArgument? text false with _ | mode' <;>
    simp [Partial.put, hmode, htext, @eq_comm _ _ q]

/-- A further value fits in if its place is free and it is a proper one. -/
theorem fits_concat_iff :
    Fits (items ++ [(slot, text)]) q ↔ ∃ p, Fits items p ∧ p.put slot text = .ok q := by
  have hother : ∀ slot', slot ≠ slot' →
      valuesOf slot' (items ++ [(slot, text)]) = valuesOf slot' items :=
    fun _ => valuesOf_concat_of_ne
  rcases slot with _ | _ | _
  case port =>
    rw [fits_iff, valuesOf_concat_self, hother .file nofun, hother .mode nofun, gives_concat_iff]
    constructor
    · rintro ⟨⟨hnil, port, htext, hport⟩, hfile, hmode⟩
      exact ⟨{ q with port := none }, ⟨gives_none_iff.2 hnil, hfile, hmode⟩,
        put_port_eq_ok_iff.2 ⟨rfl, port, htext, by rw [← hport]⟩⟩
    · rintro ⟨p, ⟨hport, hfile, hmode⟩, hput⟩
      obtain ⟨hfree, port, htext, rfl⟩ := put_port_eq_ok_iff.1 hput
      exact ⟨⟨gives_none_iff.1 (hfree ▸ hport), port, htext, rfl⟩, hfile, hmode⟩
  case file =>
    rw [fits_iff, valuesOf_concat_self, hother .port nofun, hother .mode nofun, gives_concat_iff]
    constructor
    · rintro ⟨hport, ⟨hnil, file, htext, hfile⟩, hmode⟩
      exact ⟨{ q with file := none }, ⟨hport, gives_none_iff.2 hnil, hmode⟩,
        put_file_eq_ok_iff.2 ⟨rfl, file, htext, by rw [← hfile]⟩⟩
    · rintro ⟨p, ⟨hport, hfile, hmode⟩, hput⟩
      obtain ⟨hfree, file, htext, rfl⟩ := put_file_eq_ok_iff.1 hput
      exact ⟨hport, ⟨gives_none_iff.1 (hfree ▸ hfile), file, htext, rfl⟩, hmode⟩
  case mode =>
    rw [fits_iff, valuesOf_concat_self, hother .port nofun, hother .file nofun, gives_concat_iff]
    constructor
    · rintro ⟨hport, hfile, hnil, mode, htext, hmode⟩
      exact ⟨{ q with mode := none }, ⟨hport, hfile, gives_none_iff.2 hnil⟩,
        put_mode_eq_ok_iff.2 ⟨rfl, mode, htext, by rw [← hmode]⟩⟩
    · rintro ⟨p, ⟨hport, hfile, hmode⟩, hput⟩
      obtain ⟨hfree, mode, htext, rfl⟩ := put_mode_eq_ok_iff.1 hput
      exact ⟨hport, hfile, gives_none_iff.1 (hfree ▸ hmode), mode, htext, rfl⟩

/-- Values that are put into their places one after the other fit in together. -/
theorem putAll_eq_ok_iff : putAll ⟨none, none, none⟩ items = .ok p ↔ Fits items p := by
  induction items using List.reverseRecOn generalizing p with
  | nil =>
    rw [fits_nil_iff, putAll_nil]
    exact ⟨fun h => (Except.ok.inj h).symm, fun h => h ▸ rfl⟩
  | append_singleton items item ih =>
    rw [putAll_append, Except.bind_eq_ok, fits_concat_iff]
    simp only [ih, putAll_singleton]

theorem put_error (h : p.put slot text = .error refusal) : refusal = .usage := by
  rcases slot with _ | _ | _ <;> rw [Partial.put] at h <;> split at h <;> simp_all

/-- The only fault of values is that they do not fit in. -/
theorem putAll_error (h : putAll p items = .error refusal) : refusal = .usage := by
  induction items generalizing p with
  | nil => cases h
  | cons item items ih =>
    rw [putAll_cons, Except.bind_eq_error] at h
    rcases h with hput | ⟨q, -, hrest⟩
    · exact put_error hput
    · exact ih hrest

/-- Either the values fit in, or they are refused. -/
theorem putAll_eq_error (h : ∀ p, ¬ Fits items p) :
    putAll ⟨none, none, none⟩ items = .error .usage := by
  rcases hall : putAll ⟨none, none, none⟩ items with refusal | p
  · rw [putAll_error hall]
  · exact absurd (putAll_eq_ok_iff.1 hall) (h p)

/-- The order of the values does not matter. -/
theorem Fits.perm (hperm : items.Perm items') (h : Fits items p) : Fits items' p := by
  have hvalues : ∀ slot, (valuesOf slot items).Perm (valuesOf slot items') :=
    fun slot => (hperm.filter _).map _
  exact ⟨h.port.perm (hvalues .port), h.file.perm (hvalues .file), h.mode.perm (hvalues .mode)⟩

theorem putAll_perm (hperm : items.Perm items') :
    putAll ⟨none, none, none⟩ items = putAll ⟨none, none, none⟩ items' := by
  by_cases hfits : ∃ p, Fits items p
  · obtain ⟨p, hp⟩ := hfits
    rw [putAll_eq_ok_iff.2 hp, putAll_eq_ok_iff.2 (hp.perm hperm)]
  · rw [putAll_eq_error (not_exists.1 hfits),
      putAll_eq_error fun p hp => hfits ⟨p, hp.perm hperm.symm⟩]

/-! ## Results -/

/-- What comes of a command line whose values fit in. -/
def conclude (ending : Option Refusal) (p : Partial) : Except Refusal Arguments :=
  match ending, p.port with
  | some refusal, _ => .error refusal
  | none, some port => .ok ⟨port, p.file, p.mode⟩
  | none, none => .error .usage

theorem read_eq (h : Says false words items ending) :
    read words = putAll ⟨none, none, none⟩ items >>= conclude ending := by
  rw [read, readWords_eq h, bind_assoc]
  congr 1
  funext ⟨port, file, mode⟩
  rcases ending with _ | refusal
  · rcases port with _ | port
    · rfl
    · rfl
  · rfl

theorem read_of_fits (h : Says false words items ending) (hfits : Fits items p) :
    read words = conclude ending p := by
  rw [read_eq h, putAll_eq_ok_iff.2 hfits, Except.ok_bind]

theorem read_of_unfit (h : Says false words items ending) (hfits : ∀ p, ¬ Fits items p) :
    read words = .error .usage := by
  rw [read_eq h, putAll_eq_error hfits, Except.error_bind]

/-- How a command line is answered. -/
inductive Answers (words : List String) : Except Refusal Arguments → Prop
  | accepted {items : List (Slot × String)} {arguments : Arguments} :
      Says false words items none →
      Fits items ⟨some arguments.port, arguments.file, arguments.mode⟩ →
      Answers words (.ok arguments)
  /-- Help or the version is asked for, a word is unknown or an option lacks its value. -/
  | refused {items : List (Slot × String)} {p : Partial} {refusal : Refusal} :
      Says false words items (some refusal) → Fits items p → Answers words (.error refusal)
  | portless {items : List (Slot × String)} {file : Option String} {mode : Option Mode} :
      Says false words items none → Fits items ⟨none, file, mode⟩ →
      Answers words (.error .usage)
  /-- A value comes twice or is not proper. -/
  | unfit {items : List (Slot × String)} {ending : Option Refusal} :
      Says false words items ending → (∀ p, ¬ Fits items p) → Answers words (.error .usage)

/-- The reader answers as the words say. -/
theorem read_eq_iff {result : Except Refusal Arguments} :
    read words = result ↔ Answers words result := by
  constructor
  · rintro rfl
    obtain ⟨items, ending, hwords⟩ := exists_items false words
    by_cases hfits : ∃ p, Fits items p
    · obtain ⟨⟨port, file, mode⟩, hp⟩ := hfits
      rw [read_of_fits hwords hp]
      rcases ending with _ | refusal
      · rcases port with _ | port
        · exact .portless hwords hp
        · exact .accepted hwords hp
      · exact .refused hwords hp
    · rw [read_of_unfit hwords (not_exists.1 hfits)]
      exact .unfit hwords (not_exists.1 hfits)
  · rintro (⟨hwords, hfits⟩ | ⟨hwords, hfits⟩ | ⟨hwords, hfits⟩ | ⟨hwords, hfits⟩)
    · exact read_of_fits hwords hfits
    · exact read_of_fits hwords hfits
    · exact read_of_fits hwords hfits
    · exact read_of_unfit hwords hfits

/-- The order of the values does not matter, and neither does how the words say them. -/
theorem read_congr (h : Says false words items ending) (h' : Says false words' items' ending)
    (hperm : items.Perm items') : read words = read words' := by
  rw [read_eq h, read_eq h', putAll_perm hperm]

/-- A command line is accepted if its words say one port, at most one file and at most one mode. -/
theorem read_eq_ok_iff {arguments : Arguments} : read words = .ok arguments ↔
    ∃ items, Says false words items none ∧
      Fits items ⟨some arguments.port, arguments.file, arguments.mode⟩ := by
  rw [read_eq_iff]
  constructor
  · rintro ⟨hwords, hfits⟩
    exact ⟨_, hwords, hfits⟩
  · rintro ⟨items, hwords, hfits⟩
    exact .accepted hwords hfits

example : read ["-c", "a.yaml", "8080", "--mode=hang-only"] =
    .ok ⟨8080, some "a.yaml", some .hangOnly⟩ := by
  decide +kernel

/-- Help and the version are shown if a word asks for them and all that the words before it say is
proper. -/
theorem read_eq_refused_iff (h : refusal ≠ .usage) : read words = .error refusal ↔
    ∃ items p, Says false words items (some refusal) ∧ Fits items p := by
  rw [read_eq_iff]
  constructor
  · rintro (_ | ⟨hwords, hfits⟩ | _ | _)
    · exact ⟨_, _, hwords, hfits⟩
    · exact absurd rfl h
    · exact absurd rfl h
  · rintro ⟨items, p, hwords, hfits⟩
    exact .refused hwords hfits

/-- Without a port, with more than one or with one that is no number below `2 ^ 16`, the usage is
shown. -/
theorem read_eq_usage_of_port (h : Says false words items none)
    (hport : ¬ ∃ text port, valuesOf .port items = [text] ∧ IsPort text port) :
    read words = .error .usage := by
  rw [read_eq_iff]
  by_cases hfits : ∃ p, Fits items p
  · obtain ⟨⟨port, file, mode⟩, hp⟩ := hfits
    rcases port with _ | port
    · exact .portless h hp
    · obtain ⟨text, htexts, htext⟩ := gives_some_iff.1 hp.port
      exact absurd ⟨text, port, htexts, htext⟩ hport
  · exact .unfit h (not_exists.1 hfits)

end CommandLine

end FaultyServer
