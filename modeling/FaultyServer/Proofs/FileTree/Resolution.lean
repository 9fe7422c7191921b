import FaultyServer.FileTree
import FaultyServer.Proofs.Except
import Mathlib.Data.List.Infix

/-!
# What a path resolves to

A path is followed one name at a time. `Step` says what following a name does that stands for a
directory or a file, `Jump` what it does at a link, and `Stuck` where no name can be followed and
why. At every name there is one of the three (`exists_move`), and together they decide what comes of
a path (`follow_eq_iff`):

* `resolve_eq_ok_iff`: it resolves to where it ends, if there are at most forty links on the way;
* `resolve_eq_error_iff`: it fails where it gets stuck, or at the link after the fortieth;
* `LeadsTo.isCanonical`: there are only directories on the way to what it resolves to.

What is read from a file is the text that its bytes encode (`readText_eq_ok_iff`).
-/

namespace FaultyServer.FileTree

/-- A position on the way along a path: where one is, and the names that are left to follow. -/
structure Position where
  here : CanonicalPath
  ahead : List String

/-- A name of an entry, and none of those that stand for a directory on the way. -/
def IsProper (name : String) : Prop := name ≠ "" ∧ name ≠ "." ∧ name ≠ ".."

/-- What a directory has under a name that can be looked up in it. -/
structure Finds (t : FileTree) (here : CanonicalPath) (name : String) (found : Option Entry) :
    Prop where
  directory : t.entry? here = some .directory
  isProper : IsProper name
  isShort : t.isTooLong here name = false
  found : t.entry? (here ++ [name]) = found

/-- A name is followed to a directory or a file. -/
inductive Step (t : FileTree) : Position → Position → Prop
  /-- The empty name and the dot stand for the directory itself. -/
  | stay {here : CanonicalPath} {name : String} {ahead : List String}
      (directory : t.entry? here = some .directory) (isDot : name = "" ∨ name = ".") :
      Step t ⟨here, name :: ahead⟩ ⟨here, ahead⟩
  /-- Two dots stand for the directory above. -/
  | up {here : CanonicalPath} {ahead : List String} (directory : t.entry? here = some .directory) :
      Step t ⟨here, ".." :: ahead⟩ ⟨here.dropLast, ahead⟩
  | enter {here : CanonicalPath} {name : String} {ahead : List String} {entry : Entry}
      (finds : t.Finds here name (some entry)) (noLink : ∀ target, entry ≠ .link target) :
      Step t ⟨here, name :: ahead⟩ ⟨here ++ [name], ahead⟩

/-- A name is that of a link, and the names of its target take its place. -/
inductive Jump (t : FileTree) : Position → Position → Prop
  | mk {here : CanonicalPath} {name target : String} {ahead : List String}
      (finds : t.Finds here name (some (.link target))) :
      Jump t ⟨here, name :: ahead⟩ ⟨origin here target, names target ++ ahead⟩

/-- A name cannot be followed. -/
inductive Stuck (t : FileTree) : Position → FileFault → Prop
  | notADirectory {here : CanonicalPath} {name : String} {ahead : List String}
      (directory : t.entry? here ≠ some .directory) :
      Stuck t ⟨here, name :: ahead⟩ .notADirectory
  | nameTooLong {here : CanonicalPath} {name : String} {ahead : List String}
      (directory : t.entry? here = some .directory) (isProper : IsProper name)
      (isLong : t.isTooLong here name = true) : Stuck t ⟨here, name :: ahead⟩ .nameTooLong
  | notFound {here : CanonicalPath} {name : String} {ahead : List String}
      (finds : t.Finds here name none) : Stuck t ⟨here, name :: ahead⟩ .notFound

/-- From one position to another over this many links. -/
inductive Reaches (t : FileTree) : Nat → Position → Position → Prop
  | refl (p : Position) : Reaches t 0 p p
  | step {n : Nat} {p q r : Position} (step : t.Step p q) (rest : Reaches t n q r) : Reaches t n p r
  | jump {n : Nat} {p q r : Position} (jump : t.Jump p q) (rest : Reaches t n q r) :
      Reaches t (n + 1) p r

/-- What comes of following names over at most this many links. -/
inductive Ends (t : FileTree) (links : Nat) (p : Position) : Except FileFault CanonicalPath → Prop
  /-- No name is left. -/
  | arrived {n : Nat} {canonical : CanonicalPath} (le : n ≤ links)
      (reaches : t.Reaches n p ⟨canonical, []⟩) : Ends t links p (.ok canonical)
  | stuck {n : Nat} {q : Position} {fault : FileFault} (le : n ≤ links) (reaches : t.Reaches n p q)
      (stuck : t.Stuck q fault) : Ends t links p (.error fault)
  /-- There is one more link. -/
  | tooManyLinks {q r : Position} (reaches : t.Reaches links p q) (jump : t.Jump q r) :
      Ends t links p (.error .tooManyLinks)

variable {t : FileTree} {path name : String} {here canonical : CanonicalPath}
  {ahead : List String} {fault : FileFault} {p q r : Position} {n m links : Nat}
  {result : Except FileFault CanonicalPath}

theorem Reaches.trans (h : t.Reaches n p q) (h' : t.Reaches m q r) : t.Reaches (n + m) p r := by
  induction h with
  | refl => rwa [Nat.zero_add]
  | step hstep _ ih => exact .step hstep (ih h')
  | jump hjump _ ih =>
    rw [Nat.add_right_comm]
    exact .jump hjump (ih h')

/-! ## Every way has an end -/

/-- At every name there is something to do, or a reason why there is not. -/
theorem exists_move (t : FileTree) (here : CanonicalPath) (name : String) (ahead : List String) :
    (∃ next, t.Step ⟨here, name :: ahead⟩ ⟨next, ahead⟩) ∨ (∃ q, t.Jump ⟨here, name :: ahead⟩ q) ∨
      ∃ fault, t.Stuck ⟨here, name :: ahead⟩ fault := by
  by_cases hdirectory : t.entry? here = some .directory
  · by_cases hdot : name = "" ∨ name = "."
    · exact .inl ⟨here, .stay hdirectory hdot⟩
    by_cases hup : name = ".."
    · subst hup
      exact .inl ⟨here.dropLast, .up hdirectory⟩
    have hproper : IsProper name := ⟨fun h => hdot (.inl h), fun h => hdot (.inr h), hup⟩
    cases hlong : t.isTooLong here name with
    | true => exact .inr (.inr ⟨_, .nameTooLong hdirectory hproper hlong⟩)
    | false =>
      have hfinds : t.Finds here name (t.entry? (here ++ [name])) :=
        ⟨hdirectory, hproper, hlong, rfl⟩
      cases hentry : t.entry? (here ++ [name]) with
      | none => exact .inr (.inr ⟨_, .notFound (hentry ▸ hfinds)⟩)
      | some entry =>
        rw [hentry] at hfinds
        cases entry with
        | link target => exact .inr (.inl ⟨_, .mk hfinds⟩)
        | file bytes => exact .inl ⟨_, .enter hfinds nofun⟩
        | directory => exact .inl ⟨_, .enter hfinds nofun⟩
  · exact .inr (.inr ⟨_, .notADirectory hdirectory⟩)

/-- Without following a link one comes to the end, to a link, or to where one is stuck. -/
theorem exists_stop (t : FileTree) (p : Position) :
    ∃ q, t.Reaches 0 p q ∧ (q.ahead = [] ∨ (∃ r, t.Jump q r) ∨ ∃ fault, t.Stuck q fault) := by
  obtain ⟨here, ahead⟩ := p
  induction ahead generalizing here with
  | nil => exact ⟨_, .refl _, .inl rfl⟩
  | cons name ahead ih =>
    rcases t.exists_move here name ahead with ⟨next, hstep⟩ | hjump | hstuck
    · obtain ⟨q, hreaches, hstop⟩ := ih next
      exact ⟨q, .step hstep hreaches, hstop⟩
    · exact ⟨_, .refl _, .inr (.inl hjump)⟩
    · exact ⟨_, .refl _, .inr (.inr hstuck)⟩

/-- One more link may be followed in front. -/
theorem Ends.jump (hreaches : t.Reaches 0 p q) (hjump : t.Jump q r) (h : t.Ends links r result) :
    t.Ends (links + 1) p result := by
  have hlink : ∀ {n s}, t.Reaches n r s → t.Reaches (n + 1) p s := fun h =>
    Nat.zero_add (_ + 1) ▸ hreaches.trans (.jump hjump h)
  cases h with
  | arrived hle hrest => exact .arrived (Nat.succ_le_succ hle) (hlink hrest)
  | stuck hle hrest hstuck => exact .stuck (Nat.succ_le_succ hle) (hlink hrest) hstuck
  | tooManyLinks hrest hjump' => exact .tooManyLinks (hlink hrest) hjump'

theorem exists_ends (t : FileTree) (links : Nat) (p : Position) :
    ∃ result, t.Ends links p result := by
  -- There are finitely many names up to the next link, and finitely many links may be followed.
  induction links generalizing p with
  | zero =>
    obtain ⟨⟨here, ahead⟩, hreaches, hdone | ⟨r, hjump⟩ | ⟨fault, hstuck⟩⟩ := t.exists_stop p
    · obtain rfl : ahead = [] := hdone
      exact ⟨_, .arrived (Nat.le_refl 0) hreaches⟩
    · exact ⟨_, .tooManyLinks hreaches hjump⟩
    · exact ⟨_, .stuck (Nat.le_refl 0) hreaches hstuck⟩
  | succ links ih =>
    obtain ⟨⟨here, ahead⟩, hreaches, hdone | ⟨r, hjump⟩ | ⟨fault, hstuck⟩⟩ := t.exists_stop p
    · obtain rfl : ahead = [] := hdone
      exact ⟨_, .arrived (Nat.zero_le _) hreaches⟩
    · obtain ⟨result, hends⟩ := ih r
      exact ⟨result, hends.jump hreaches hjump⟩
    · exact ⟨_, .stuck (Nat.zero_le _) hreaches hstuck⟩

/-! ## Names are followed to the end of their way -/

/-- What a directory has under a name decides how the name is followed. -/
theorem walk_of_finds {found : Option Entry} (ahead : List String) :
    t.Finds here name found → t.walk here (name :: ahead) =
      match found with
      | none => .error .notFound
      | some (.link target) => .ok (.link here target ahead)
      | some _ => t.walk (here ++ [name]) ahead := by
  intro h
  obtain ⟨hempty, hdot, hup⟩ := h.isProper
  rw [walk, if_neg (by simp [h.directory]), if_neg (by simp [hempty, hdot]), if_neg hup,
    if_neg (by simp [h.isShort])]
  cases found with
  | none => simp only [h.found]
  | some entry => cases entry <;> simp only [h.found]

theorem walk_of_step (h : t.Step p q) : t.walk p.here p.ahead = t.walk q.here q.ahead := by
  cases h with
  | stay hdirectory hdot => rw [walk, if_neg (by simp [hdirectory]), if_pos hdot]
  | up hdirectory => rw [walk, if_neg (by simp [hdirectory]), if_neg (by decide), if_pos rfl]
  | @enter here name ahead entry hfinds hlink =>
    rw [walk_of_finds _ hfinds]
    cases entry with
    | link target => exact absurd rfl (hlink target)
    | _ => rfl

/-- Following a link takes one of those that may be followed. -/
theorem follow_of_jump (h : t.Jump p q) :
    t.follow (links + 1) p.here p.ahead = t.follow links q.here q.ahead := by
  obtain ⟨hfinds⟩ := h
  rw [follow, walk_of_finds _ hfinds]
  rfl

theorem follow_zero_of_jump (h : t.Jump p q) :
    t.follow 0 p.here p.ahead = .error .tooManyLinks := by
  obtain ⟨hfinds⟩ := h
  rw [follow, walk_of_finds _ hfinds]
  rfl

theorem follow_of_stuck (h : t.Stuck p fault) : t.follow links p.here p.ahead = .error fault := by
  have hwalk : t.walk p.here p.ahead = .error fault := by
    cases h with
    | notADirectory hdirectory => rw [walk, if_pos (by simpa using hdirectory)]
    | nameTooLong hdirectory hproper hlong =>
      obtain ⟨hempty, hdot, hup⟩ := hproper
      rw [walk, if_neg (by simp [hdirectory]), if_neg (by simp [hempty, hdot]), if_neg hup,
        if_pos hlong]
    | notFound hfinds => rw [walk_of_finds _ hfinds]
  rw [follow, hwalk]
  rfl

theorem follow_nil : t.follow links here [] = .ok here := by
  rw [follow, walk]
  rfl

theorem follow_of_reaches (h : t.Reaches n p q) :
    t.follow (n + links) p.here p.ahead = t.follow links q.here q.ahead := by
  induction h with
  | refl => rw [Nat.zero_add]
  | step hstep _ ih => rw [follow, walk_of_step hstep, ← ih, follow]
  | jump hjump _ ih => rw [Nat.add_right_comm, follow_of_jump hjump, ih]

theorem follow_of_ends (h : t.Ends links p result) : t.follow links p.here p.ahead = result := by
  cases h with
  | arrived hle hreaches =>
    rw [← Nat.add_sub_cancel' hle, follow_of_reaches hreaches, follow_nil]
  | stuck hle hreaches hstuck =>
    rw [← Nat.add_sub_cancel' hle, follow_of_reaches hreaches, follow_of_stuck hstuck]
  | @tooManyLinks q r hreaches hjump =>
    have hfollow : t.follow (links + 0) p.here p.ahead = t.follow 0 q.here q.ahead :=
      follow_of_reaches hreaches
    rwa [Nat.add_zero, follow_zero_of_jump hjump] at hfollow

/-- Names are followed to the end of their way, and there is only one. -/
theorem follow_eq_iff : t.follow links here ahead = result ↔ t.Ends links ⟨here, ahead⟩ result := by
  constructor
  · -- The way has some end, and what is found is that end.
    rintro rfl
    obtain ⟨result, hends⟩ := t.exists_ends links ⟨here, ahead⟩
    exact follow_of_ends hends ▸ hends
  · exact follow_of_ends

/-! ## Paths -/

/-- Where following a path begins. -/
def begin (t : FileTree) (path : String) : Position := ⟨origin t.home path, names path⟩

/-- A text that can be a path: it is not empty, and no NUL is in it. -/
def IsPath (path : String) : Prop := '\x00' ∉ path.toList ∧ path ≠ ""

/-- A path ends at a canonical path, over no more links than may be followed. -/
def LeadsTo (t : FileTree) (path : String) (canonical : CanonicalPath) : Prop :=
  IsPath path ∧ ∃ n ≤ maxLinks, t.Reaches n (t.begin path) ⟨canonical, []⟩

/-- A path leads nowhere. -/
inductive Misleads (t : FileTree) (path : String) : FileFault → Prop
  | invalid (nul : '\x00' ∈ path.toList) : Misleads t path .invalidPath
  | empty (empty : path = "") : Misleads t path .notFound
  | stuck {n : Nat} {q : Position} {fault : FileFault} (isPath : IsPath path) (le : n ≤ maxLinks)
      (reaches : t.Reaches n (t.begin path) q) (stuck : t.Stuck q fault) : Misleads t path fault
  | tooManyLinks {q r : Position} (isPath : IsPath path)
      (reaches : t.Reaches maxLinks (t.begin path) q) (jump : t.Jump q r) :
      Misleads t path .tooManyLinks

theorem resolve_of_isPath (h : IsPath path) :
    t.resolve path = result ↔ t.Ends maxLinks (t.begin path) result := by
  rw [resolve, if_neg (by simpa using h.1), if_neg h.2, follow_eq_iff]
  rfl

theorem resolve_of_nul (h : '\x00' ∈ path.toList) : t.resolve path = .error .invalidPath := by
  rw [resolve, if_pos (by simpa using h)]

theorem resolve_empty : t.resolve "" = .error .notFound := rfl

theorem resolve_eq_ok_iff : t.resolve path = .ok canonical ↔ t.LeadsTo path canonical := by
  constructor
  · intro h
    by_cases hnul : '\x00' ∈ path.toList
    · rw [resolve_of_nul hnul] at h
      cases h
    by_cases hempty : path = ""
    · rw [hempty, resolve_empty] at h
      cases h
    cases (resolve_of_isPath ⟨hnul, hempty⟩).1 h with
    | arrived hle hreaches => exact ⟨⟨hnul, hempty⟩, _, hle, hreaches⟩
  · rintro ⟨hpath, n, hle, hreaches⟩
    exact (resolve_of_isPath hpath).2 (.arrived hle hreaches)

theorem resolve_eq_error_iff : t.resolve path = .error fault ↔ t.Misleads path fault := by
  constructor
  · intro h
    by_cases hnul : '\x00' ∈ path.toList
    · rw [resolve_of_nul hnul] at h
      cases h
      exact .invalid hnul
    by_cases hempty : path = ""
    · rw [hempty, resolve_empty] at h
      cases h
      exact .empty hempty
    have hpath : IsPath path := ⟨hnul, hempty⟩
    cases (resolve_of_isPath hpath).1 h with
    | stuck hle hreaches hstuck => exact .stuck hpath hle hreaches hstuck
    | tooManyLinks hreaches hjump => exact .tooManyLinks hpath hreaches hjump
  · rintro (hnul | rfl | ⟨hpath, hle, hreaches, hstuck⟩ | ⟨hpath, hreaches, hjump⟩)
    · exact resolve_of_nul hnul
    · exact resolve_empty
    · exact (resolve_of_isPath hpath).2 (.stuck hle hreaches hstuck)
    · exact (resolve_of_isPath hpath).2 (.tooManyLinks hreaches hjump)

/-! ## Canonical paths -/

/-- A path without links: there are only directories on the way, and a directory or a file at its
end. -/
structure IsCanonical (t : FileTree) (canonical : CanonicalPath) : Prop where
  above : ∀ way, way <+: canonical → way ≠ canonical → t.entry? way = some .directory
  atEnd : t.entry? canonical = some .directory ∨
    ∃ bytes, t.entry? canonical = some (.file bytes)

theorem entry?_home {way : CanonicalPath} (h : way <+: t.home) : t.entry? way = some .directory :=
  if_pos h

theorem isCanonical_home : t.IsCanonical t.home :=
  ⟨fun _ hway _ => entry?_home hway, .inl (entry?_home (List.prefix_refl _))⟩

theorem isCanonical_root : t.IsCanonical [] :=
  ⟨fun _ hway hne => absurd (List.prefix_nil.1 hway) hne, .inl (entry?_home List.nil_prefix)⟩

theorem IsCanonical.origin (h : t.IsCanonical here) (path : String) :
    t.IsCanonical (origin here path) := by
  rw [FileTree.origin]
  split
  · exact isCanonical_root
  · exact h

theorem IsCanonical.dropLast (h : t.IsCanonical here)
    (hdirectory : t.entry? here = some .directory) : t.IsCanonical here.dropLast := by
  have hprefix := List.dropLast_prefix here
  have hentry : ∀ way, way <+: here → t.entry? way = some .directory := by
    intro way hway
    by_cases hwhole : way = here
    · rwa [hwhole]
    · exact h.above way hway hwhole
  exact ⟨fun way hway _ => hentry way (hway.trans hprefix), .inl (hentry _ hprefix)⟩

theorem IsCanonical.step (h : t.IsCanonical p.here) (hstep : t.Step p q) :
    t.IsCanonical q.here := by
  cases hstep with
  | stay => exact h
  | up hdirectory => exact h.dropLast hdirectory
  | @enter here name ahead entry hfinds hlink =>
    refine ⟨fun way hway hne => ?_, ?_⟩
    · rcases List.prefix_concat_iff.1 hway with hwhole | hway
      · exact absurd hwhole hne
      · by_cases hwhole : way = here
        · rw [hwhole, hfinds.directory]
        · exact h.above way hway hwhole
    · cases entry with
      | link target => exact absurd rfl (hlink target)
      | directory => exact .inl hfinds.found
      | file bytes => exact .inr ⟨bytes, hfinds.found⟩

theorem IsCanonical.reaches (h : t.IsCanonical p.here) (hreaches : t.Reaches n p q) :
    t.IsCanonical q.here := by
  induction hreaches with
  | refl => exact h
  | step hstep _ ih => exact ih (h.step hstep)
  | jump hjump _ ih =>
    obtain ⟨hfinds⟩ := hjump
    exact ih (h.origin _)

/-- What a path resolves to has no link on its way. -/
theorem LeadsTo.isCanonical (h : t.LeadsTo path canonical) : t.IsCanonical canonical := by
  obtain ⟨-, n, -, hreaches⟩ := h
  exact IsCanonical.reaches (isCanonical_home.origin path) hreaches

/-! ## Texts -/

/-- The bytes that encode a text. -/
def encode (text : String) : List UInt8 := text.toUTF8.data.toList

theorem fromUTF8?_eq_some_iff {bytes : List UInt8} {text : String} :
    String.fromUTF8? (ByteArray.mk bytes.toArray) = some text ↔ bytes = encode text := by
  constructor
  · intro h
    rw [String.fromUTF8?] at h
    split at h
    · obtain rfl := Option.some.inj h
      rfl
    · cases h
  · rintro rfl
    exact dif_pos text.isValidUTF8

/-- A file is read as the text that its bytes encode. -/
theorem readText_eq_ok_iff {text : String} :
    t.readText canonical = .ok text ↔ t.entry? canonical = some (.file (encode text)) := by
  rw [readText]
  split
  · next bytes hfile =>
    have hsome : String.fromUTF8? (.mk bytes.toArray) = some text ↔ bytes = encode text :=
      fromUTF8?_eq_some_iff
    rw [hfile, Option.some.injEq, Entry.file.injEq, ← hsome]
    split
    · next text' htext => rw [htext, Except.ok.injEq, Option.some.injEq]
    · next hnone => simp [hnone]
  · next entry hfile hentry =>
    rw [hentry]
    simp only [reduceCtorEq, Option.some.injEq, false_iff]
    exact fun h => hfile _ h
  · next hnone => simp [hnone]

/-- Why no text is read. -/
inductive Unreadable (t : FileTree) (canonical : CanonicalPath) : FileFault → Prop
  | isADirectory (directory : t.entry? canonical = some .directory) :
      Unreadable t canonical .isADirectory
  | notText {bytes : List UInt8} (file : t.entry? canonical = some (.file bytes))
      (noText : ∀ text, bytes ≠ encode text) : Unreadable t canonical .notText

theorem readText_eq_error_iff (h : t.IsCanonical canonical) :
    t.readText canonical = .error fault ↔ t.Unreadable canonical fault := by
  rw [readText]
  constructor
  · intro hfault
    split at hfault
    · next bytes hfile =>
      split at hfault
      · cases hfault
      · next hnone =>
        cases hfault
        refine .notText hfile fun text hbytes => ?_
        rw [fromUTF8?_eq_some_iff.2 hbytes] at hnone
        cases hnone
    · next hfile hentry =>
      cases hfault
      rcases h.atEnd with hdirectory | ⟨bytes, hbytes⟩
      · exact .isADirectory hdirectory
      · exact absurd (Option.some.inj (hentry.symm.trans hbytes)) (hfile bytes)
    · next hnone =>
      rcases h.atEnd with hdirectory | ⟨bytes, hfile⟩
      · cases hnone.symm.trans hdirectory
      · cases hnone.symm.trans hfile
  · rintro (hdirectory | ⟨hfile, hnone⟩)
    · rw [hdirectory]
    · rw [hfile]
      dsimp only
      split
      · next text htext => exact absurd (fromUTF8?_eq_some_iff.1 htext) (hnone text)
      · rfl

end FaultyServer.FileTree
