import RedirectLogin.Proofs.Store.Interruptions

/-!
# Paths that only lead down

A path without `..` leads through the directories it names, one below the other, to what stands
under its last name. What is found through it is decided by the places on its way (`descend`), so
anything may happen elsewhere.

Directories that are made on the way are the one change that such a path could notice. It does not
if the files are a tree, where nothing stands below a place that is free, and if its names are short
enough to be looked up at all.

Principal results: `read_put_beside` — what is put beside the way; `Grows.read` — directories that
are made on the way; `grows_of_whileMaking` — at every moment while they are.
-/

set_option autoImplicit false

namespace RedirectLogin

namespace Path

variable {p q : Path} {name : String}

/-- The parts that name something. -/
def namesIn (parts : List String) : List String :=
  parts.filter (fun part => part ≠ "" ∧ part ≠ ".")

theorem namesIn_append (front back : List String) :
    namesIn (front ++ back) = namesIn front ++ namesIn back :=
  List.filter_append front back

theorem namesIn_reverse (parts : List String) :
    namesIn parts.reverse = (namesIn parts).reverse :=
  List.filter_reverse

theorem namesIn_cons_of_dot {part : String} (h : part = "" ∨ part = ".") (parts : List String) :
    namesIn (part :: parts) = namesIn parts :=
  List.filter_cons_of_neg (by rcases h with rfl | rfl <;> decide)

theorem namesIn_cons_of_name {part : String} (h : ¬(part = "" ∨ part = ".")) (parts : List String) :
    namesIn (part :: parts) = part :: namesIn parts :=
  List.filter_cons_of_pos (by simpa [not_or] using h)

/-- What does not count at the end of a path names nothing. -/
theorem namesIn_trimReversed (isAbsolute : Bool) (parts : List String) :
    namesIn (trimReversed isAbsolute parts) = namesIn parts := by
  induction parts with
  | nil => rfl
  | cons part rest ih =>
    rw [trimReversed]
    split
    · rename_i hcut
      rw [ih, namesIn_cons_of_dot (hcut.imp_right And.left)]
    · rfl

theorem namesIn_trimmed (p : Path) : namesIn p.trimmed = namesIn p.parts := by
  rw [trimmed, namesIn_reverse, namesIn_trimReversed, namesIn_reverse, List.reverse_reverse]

theorem trimReversed_sublist (isAbsolute : Bool) (parts : List String) :
    (trimReversed isAbsolute parts).Sublist parts := by
  induction parts with
  | nil => exact List.Sublist.refl _
  | cons part rest ih =>
    rw [trimReversed]
    split
    · exact ih.cons part
    · exact List.Sublist.refl _

theorem mem_of_mem_trimmed {part : String} (h : part ∈ p.trimmed) : part ∈ p.parts :=
  List.mem_reverse.1 ((trimReversed_sublist _ _).subset (List.mem_reverse.1 h))

/-- What counts at the end of a path is not empty. -/
theorem ne_empty_of_head_trimReversed {isAbsolute : Bool} {parts : List String}
    (h : (trimReversed isAbsolute parts).head? = some name) : name ≠ "" := by
  induction parts with
  | nil => cases h
  | cons part rest ih =>
    rw [trimReversed] at h
    split at h
    · exact ih h
    · rename_i hcounts
      rw [List.head?_cons, Option.some.injEq] at h
      exact fun hempty => hcounts (.inl (h.trans hempty))

theorem trimmed_of_fileName? (h : p.fileName? = some name) :
    p.trimmed = p.trimmed.dropLast ++ [name] ∧ ¬(name = "" ∨ name = ".") := by
  obtain ⟨hlast, hcounts⟩ := Option.filter_eq_some_iff.1 h
  obtain ⟨front, htrimmed⟩ := List.getLast?_eq_some_iff.1 hlast
  have hempty : name ≠ "" := by
    rw [trimmed, List.getLast?_reverse] at hlast
    exact ne_empty_of_head_trimReversed hlast
  refine ⟨by rw [htrimmed, List.dropLast_concat], not_or.2 ⟨hempty, ?_⟩⟩
  exact (of_decide_eq_true hcounts).1

/-- The name of a file is the last one of its path. -/
theorem namesIn_of_fileName? (h : p.fileName? = some name) :
    namesIn p.parts = namesIn p.trimmed.dropLast ++ [name] := by
  obtain ⟨htrimmed, hname⟩ := trimmed_of_fileName? h
  rw [← namesIn_trimmed, htrimmed, namesIn_append, namesIn_cons_of_name hname, List.dropLast_concat]
  rfl

/-- The parent's names are those before the last. -/
theorem namesIn_parent (h : p.parent? = some q) : namesIn q.parts = namesIn p.trimmed.dropLast := by
  unfold parent? at h
  split at h
  · cases h
  · obtain rfl := Option.some.inj h
    exact namesIn_trimmed ⟨p.isAbsolute, p.trimmed.dropLast⟩

theorem isAbsolute_of_parent (h : p.parent? = some q) : q.isAbsolute = p.isAbsolute := by
  unfold parent? at h
  split at h
  · cases h
  · obtain rfl := Option.some.inj h
    rfl

theorem not_up_of_parent (h : p.parent? = some q) (hup : ".." ∉ p.parts) : ".." ∉ q.parts := by
  unfold parent? at h
  split at h
  · cases h
  · obtain rfl := Option.some.inj h
    exact fun hmem => hup (mem_of_mem_trimmed (List.dropLast_subset _ (mem_of_mem_trimmed hmem)))

theorem namesIn_parent_prefix (h : p.parent? = some q) : namesIn q.parts <+: namesIn p.parts := by
  rw [namesIn_parent h, ← namesIn_trimmed p]
  exact (List.dropLast_prefix p.trimmed).filter _

end Path

namespace Files

open RedirectLogin.Path (namesIn)

variable {fs gs hs : Files} {p : Path} {place start top : Place} {name : String}
  {names parts : List String}

/-! ## The places on a way -/

/-- Where a path starts. -/
def startOf (fs : Files) (p : Path) : Place :=
  if p.isAbsolute then [] else fs.here

/-- The entry that names lead to from a place, one below the other. -/
def descend (fs : Files) (place : Place) : List String → Except IoError Entry
  | [] => .ok .directory
  | name :: names =>
    match fs.entryIn? place name with
    | .error e => .error e
    | .ok none => .error .notFound
    | .ok (some (.file bytes mode)) =>
      if names = [] then .ok (.file bytes mode) else .error .notDirectory
    | .ok (some .directory) => descend fs (place ++ [name]) names

/-- What an entry is to a path that may end in a slash, which only a directory may have. -/
def beforeSlash (slash : Bool) : Entry → Except IoError Entry
  | .directory => .ok .directory
  | .file bytes mode => if slash then .error .notDirectory else .ok (.file bytes mode)

/-- A walk that is followed by more names is a descent. -/
theorem walk_descend {slash : Bool} (hup : ".." ∉ parts) (hslash : names = [] → slash = true) :
    (fs.walk start parts >>= fun place => fs.descend place names >>= beforeSlash slash) =
      fs.descend start (namesIn parts ++ names) >>= beforeSlash slash := by
  induction parts generalizing start with
  | nil => rfl
  | cons part parts ih =>
    rw [List.mem_cons, not_or] at hup
    rw [walk]
    by_cases hdot : part = "" ∨ part = "."
    · rw [if_pos hdot, Path.namesIn_cons_of_dot hdot]
      exact ih hup.2
    rw [if_neg hdot, if_neg (Ne.symm hup.1), Path.namesIn_cons_of_name hdot, List.cons_append,
      descend]
    cases fs.entryIn? start part with
    | error e => rfl
    | ok found =>
      rcases found with _ | _ | ⟨bytes, mode⟩
      · rfl
      · exact ih hup.2
      · by_cases hlast : namesIn parts ++ names = []
        · simp only [if_pos hlast, hslash (List.append_eq_nil_iff.1 hlast).2]
          rfl
        · simp only [if_neg hlast]
          rfl

theorem place_of_walk (hup : ".." ∉ parts) (h : fs.walk start parts = .ok place) :
    place = start ++ namesIn parts := by
  induction parts generalizing start with
  | nil => exact (Except.ok.inj h).symm.trans (List.append_nil start).symm
  | cons part parts ih =>
    rw [List.mem_cons, not_or] at hup
    rw [walk] at h
    by_cases hdot : part = "" ∨ part = "."
    · rw [if_pos hdot] at h
      rw [Path.namesIn_cons_of_dot hdot]
      exact ih hup.2 h
    rw [if_neg hdot, if_neg (Ne.symm hup.1)] at h
    split at h
    · cases h
    · cases h
    · cases h
    · rw [ih hup.2 h, Path.namesIn_cons_of_name hdot, List.append_assoc]
      rfl

theorem namesIn_dropWhile (parts : List String) :
    namesIn (parts.dropWhile (· = "")) = namesIn parts := by
  induction parts with
  | nil => rfl
  | cons part rest ih =>
    by_cases hempty : part = ""
    · rw [List.dropWhile_cons_of_pos (by simpa using hempty), ih,
        Path.namesIn_cons_of_dot (.inl hempty)]
    · rw [List.dropWhile_cons_of_neg (by simpa using hempty)]

/-- What the last part of a path asks for in the directory the others lead to. -/
def lastOf (place : Place) (slash : Bool) (part : String) : Last :=
  if part = "." then .onTheWay place
  else if part = ".." then .onTheWay place.dropLast
  else .name part slash

/-- A path cannot be followed in any files, or is followed along all parts but the last. -/
theorem target_cases (p : Path) :
    (∃ e, ∀ fs : Files, fs.target p = .error e) ∨
      ∃ front last slash, last ≠ "" ∧ namesIn p.parts = namesIn (front ++ [last]) ∧
        (".." ∈ front ++ [last] → ".." ∈ p.parts) ∧
        ∀ fs : Files, fs.target p =
          fs.walk (fs.startOf p) front >>= fun place => .ok (place, lastOf place slash last) := by
  unfold target
  by_cases hchars : p.text.toList.contains (Char.ofNat 0)
  · exact .inl ⟨.badPath, fun fs => if_pos hchars⟩
  by_cases hempty : p.text.isEmpty
  · exact .inl ⟨.notFound, fun fs => by rw [if_neg hchars, if_pos hempty]⟩
  by_cases hlong : pathLimit ≤ p.text.utf8ByteSize
  · exact .inl ⟨.nameTooLong, fun fs => by rw [if_neg hchars, if_neg hempty, if_pos hlong]⟩
  refine .inr ?_
  simp only [if_neg hchars, if_neg hempty, if_neg hlong]
  have hnames := namesIn_dropWhile p.parts.reverse
  have hup : ".." ∈ p.parts.reverse.dropWhile (· = "") → ".." ∈ p.parts := fun hmem =>
    List.mem_reverse.1 ((List.dropWhile_sublist _).subset hmem)
  have hfirst := List.head?_dropWhile_not (fun part => decide (part = "")) p.parts.reverse
  generalize p.parts.reverse.dropWhile (· = "") = parts at hnames hup hfirst ⊢
  rw [Path.namesIn_reverse, ← List.reverse_eq_iff, ← Path.namesIn_reverse] at hnames
  cases parts with
  | nil =>
    exact ⟨[], ".", false, by decide, hnames.symm, fun hmem => absurd hmem (by decide),
      fun fs => rfl⟩
  | cons last rest =>
    refine ⟨rest.reverse, last, p.parts.getLast? == some "", by simpa using hfirst, ?_, ?_, ?_⟩
    · rw [← hnames, List.reverse_cons]
    · rw [← List.reverse_cons, List.mem_reverse]
      exact hup
    · intro fs
      simp only [List.reverse_cons, List.getLast?_concat, List.dropLast_concat, lastOf]
      unfold startOf
      cases fs.walk (if p.isAbsolute = true then [] else fs.here) rest.reverse with
      | error e => rfl
      | ok place =>
        simp only [bind, Except.bind]
        split
        · rfl
        · split <;> rfl

/-- What a path asks for by name is the last of its names. -/
theorem exists_of_target {slash : Bool} (h : fs.target p = .ok (place, .name name slash)) :
    name ≠ ".." ∧ ∃ front, namesIn p.parts = namesIn front ++ [name] ∧
      (".." ∈ front → ".." ∈ p.parts) ∧ fs.walk (fs.startOf p) front = .ok place := by
  rcases target_cases p with ⟨e, herror⟩ | ⟨front, last, slash', hlast, hnames, hup, htarget⟩
  · rw [herror] at h
    cases h
  · rw [htarget] at h
    obtain ⟨place', hwalk, hdone⟩ := bind_eq_ok_iff.1 h
    unfold lastOf at hdone
    split at hdone
    · cases hdone
    rename_i hdot
    split at hdone
    · cases hdone
    rename_i hdots
    cases hdone
    refine ⟨hdots, front, ?_, fun hmem => hup (List.mem_append_left _ hmem), hwalk⟩
    rw [hnames, Path.namesIn_append, Path.namesIn_cons_of_name (not_or.2 ⟨hlast, hdot⟩)]
    rfl

/-- A name leads to the place that all names of its path lead to. -/
theorem place_of_target {slash : Bool} (hup : ".." ∉ p.parts)
    (h : fs.target p = .ok (place, .name name slash)) :
    place ++ [name] = fs.startOf p ++ namesIn p.parts := by
  obtain ⟨-, front, hnames, hfront, hwalk⟩ := exists_of_target h
  rw [place_of_walk (mt hfront hup) hwalk, hnames, List.append_assoc]

/-- **Without `..`, a path is looked up by a descent** along its names, or is no path at all. -/
theorem lookup_eq_descend (hup : ".." ∉ p.parts) :
    (∃ e, ∀ fs : Files, fs.lookup p = .error e) ∨
      ∃ slash, ∀ fs : Files, fs.lookup p =
        fs.descend (fs.startOf p) (namesIn p.parts) >>= beforeSlash slash := by
  unfold lookup
  rcases target_cases p with ⟨e, herror⟩ | ⟨front, last, slash, hlast, hnames, hmem, htarget⟩
  · exact .inl ⟨e, fun fs => by rw [herror]; rfl⟩
  refine .inr ?_
  obtain ⟨hfront, hdots⟩ := not_or.1 (mt List.mem_append.2 (mt hmem hup))
  have hlastUp : last ≠ ".." := fun heq => hdots (List.mem_singleton.2 heq.symm)
  simp only [htarget, hnames, Path.namesIn_append]
  by_cases hdot : last = "."
  · subst hdot
    refine ⟨true, fun fs => ?_⟩
    rw [← walk_descend hfront fun _ => rfl]
    cases fs.walk (fs.startOf p) front <;> rfl
  · refine ⟨slash, fun fs => ?_⟩
    rw [Path.namesIn_cons_of_name (not_or.2 ⟨hlast, hdot⟩), ← walk_descend hfront (by simp)]
    cases fs.walk (fs.startOf p) front with
    | error e => rfl
    | ok place =>
      simp only [bind, Except.bind, lastOf, if_neg hdot, if_neg hlastUp, descend]
      cases fs.entryIn? place last with
      | error e => rfl
      | ok found => rcases found with _ | _ | _ <;> rfl

/-- Nothing else about the files is seen through such a path. -/
theorem read_of_descend (hup : ".." ∉ p.parts)
    (h : gs.descend (gs.startOf p) (namesIn p.parts) =
      fs.descend (fs.startOf p) (namesIn p.parts)) :
    gs.read p = fs.read p := by
  unfold read
  rcases lookup_eq_descend hup with ⟨e, herror⟩ | ⟨slash, hlookup⟩
  · rw [herror, herror]
  · rw [hlookup, hlookup, h]

/-- A descent sees the places on its way. -/
theorem descend_congr (h : ∀ front, front <+: names → front ≠ [] →
    gs.find? (place ++ front) = fs.find? (place ++ front)) :
    gs.descend place names = fs.descend place names := by
  induction names generalizing place with
  | nil => rfl
  | cons name names ih =>
    have hentry : gs.entryIn? place name = fs.entryIn? place name := by
      rw [entryIn?, entryIn?, h [name] ⟨names, rfl⟩ (by simp)]
    have hrest : gs.descend (place ++ [name]) names = fs.descend (place ++ [name]) names := by
      refine ih fun front hfront _ => ?_
      rw [List.append_assoc]
      exact h (name :: front) (List.cons_prefix_cons.2 ⟨rfl, hfront⟩) (by simp)
    rw [descend, descend, hentry, hrest]

/-- **What is put beside the way is not seen.** -/
theorem read_put_beside (hup : ".." ∉ p.parts)
    (hbeside : ¬place <+: fs.startOf p ++ namesIn p.parts) (e : Entry) :
    (fs.put place e).read p = fs.read p := by
  refine read_of_descend hup (descend_congr fun front hfront _ => find?_put_of_ne fs e ?_)
  intro hplace
  exact hbeside (hplace ▸ (List.prefix_append_right_inj _).2 hfront)

/-! ## Directories on the way -/

/-- Directories were made on the way to a place where nothing stood, and nothing else happened. -/
structure Grows (top : Place) (fs gs : Files) : Prop where
  here : gs.here = fs.here
  only : ∀ place, gs.find? place = fs.find? place ∨
    fs.find? place = none ∧ gs.find? place = some .directory ∧ place <+: top

theorem Grows.refl (top : Place) (fs : Files) : Grows top fs fs :=
  ⟨rfl, fun _ => .inl rfl⟩

theorem Grows.startOf (h : Grows top fs gs) (p : Path) : gs.startOf p = fs.startOf p := by
  rw [Files.startOf, Files.startOf, h.here]

theorem Grows.trans (h : Grows top fs gs) (h' : Grows top gs hs) : Grows top fs hs where
  here := h'.here.trans h.here
  only place := by
    rcases h.only place with hsame | ⟨hfree, hmade, htop⟩ <;>
      rcases h'.only place with hsame' | ⟨hfree', hmade', htop'⟩
    · exact .inl (hsame'.trans hsame)
    · exact .inr ⟨hsame ▸ hfree', hmade', htop'⟩
    · exact .inr ⟨hfree, hsame'.trans hmade, htop⟩
    · rw [hmade] at hfree'
      cases hfree'

theorem Grows.mono {top' : Place} (h : Grows top fs gs) (htop : top <+: top') :
    Grows top' fs gs where
  here := h.here
  only place := (h.only place).imp_right fun ⟨hfree, hmade, hplace⟩ =>
    ⟨hfree, hmade, hplace.trans htop⟩

theorem startOf_parent {q : Path} (h : p.parent? = some q) : fs.startOf q = fs.startOf p := by
  rw [Files.startOf, Files.startOf, Path.isAbsolute_of_parent h]

theorem grows_of_ensureDirectory (hup : ".." ∉ p.parts) (h : fs.ensureDirectory p = .ok gs) :
    Grows (fs.startOf p ++ namesIn p.parts) fs gs := by
  unfold ensureDirectory at h
  split at h
  · rename_i hmake
    obtain rfl := Except.ok.inj h
    obtain ⟨⟨directory, last⟩, htarget, hdone⟩ := bind_eq_ok_iff.1 hmake
    cases last with
    | onTheWay place => cases hdone
    | name name slash =>
      obtain ⟨found, hentry, hfound⟩ := bind_eq_ok_iff.1 hdone
      cases found with
      | some entry => cases hfound
      | none =>
        obtain rfl := Except.ok.inj hfound
        rw [← place_of_target hup htarget]
        refine ⟨rfl, fun place => ?_⟩
        by_cases hplace : place = directory ++ [name]
        · subst hplace
          have hfree := (entryIn?_eq_ok_iff.1 hentry).2
          exact .inr ⟨hfree, find?_put_self _ _ (by simp), List.prefix_rfl⟩
        · exact .inl (find?_put_of_ne _ _ hplace)
  · split at h
    · exact Except.ok.inj h ▸ Grows.refl _ fs
    · cases h

theorem Grows.parent {q : Path} (h : Grows (fs.startOf q ++ namesIn q.parts) fs gs)
    (hparent : p.parent? = some q) : Grows (fs.startOf p ++ namesIn p.parts) fs gs := by
  rw [startOf_parent hparent] at h
  exact h.mono ((List.prefix_append_right_inj _).2 (Path.namesIn_parent_prefix hparent))

theorem Grows.ensureDirectory (h : Grows (fs.startOf p ++ namesIn p.parts) fs gs)
    (hup : ".." ∉ p.parts) (hensure : gs.ensureDirectory p = .ok hs) :
    Grows (fs.startOf p ++ namesIn p.parts) fs hs := by
  have hgrows := grows_of_ensureDirectory hup hensure
  rw [h.startOf] at hgrows
  exact h.trans hgrows

theorem grows_makeDirectories (hup : ".." ∉ p.parts) (fs : Files) :
    Grows (fs.startOf p ++ namesIn p.parts) fs (makeDirectories p fs).2 := by
  fun_induction makeDirectories p fs with
  | case1 p hparent => exact .refl _ _
  | case2 p parent hparent gs hensure => exact grows_of_ensureDirectory hup hensure
  | case3 p parent hparent hmissing e gs habove ih =>
    have hgrows := ih (Path.not_up_of_parent hparent hup)
    rw [habove] at hgrows
    exact hgrows.parent hparent
  | case4 p parent hparent hmissing gs habove hs hensure ih =>
    have hgrows := ih (Path.not_up_of_parent hparent hup)
    rw [habove] at hgrows
    exact (hgrows.parent hparent).ensureDirectory hup hensure
  | case5 p parent hparent hmissing gs habove e hensure ih =>
    have hgrows := ih (Path.not_up_of_parent hparent hup)
    rw [habove] at hgrows
    exact hgrows.parent hparent
  | case6 p parent hparent e hother hensure => exact .refl _ _

/-- **While directories are made, nothing else changes.** -/
theorem grows_of_whileMaking (hup : ".." ∉ p.parts) (h : WhileMaking p fs gs) :
    Grows (fs.startOf p ++ namesIn p.parts) fs gs := by
  induction h with
  | untouched p fs => exact .refl _ _
  | alone hparent hensure => exact grows_of_ensureDirectory hup hensure
  | above hparent hmissing habove ih =>
    exact (ih (Path.not_up_of_parent hparent hup)).parent hparent
  | @atLast p parent fs gs hs hparent hmissing habove hensure =>
    have hgrows := grows_makeDirectories (Path.not_up_of_parent hparent hup) fs
    rw [habove] at hgrows
    exact (hgrows.parent hparent).ensureDirectory hup hensure

/-- Only in directories does anything stand. -/
def IsTree (fs : Files) : Prop :=
  ∀ place name, fs.find? (place ++ [name]) ≠ none → fs.find? place = some .directory

theorem isTree_empty : empty.IsTree :=
  fun place name hfound => absurd (by simp [find?, empty]) hfound

/-- What is put into a directory, but not in place of one, leaves a tree. -/
theorem IsTree.put (h : fs.IsTree) (place : Place) (name : String) (e : Entry)
    (hin : fs.find? place = some .directory)
    (hfree : fs.find? (place ++ [name]) ≠ some .directory) :
    (fs.put (place ++ [name]) e).IsTree := by
  intro place' name' hfound
  by_cases hsame : place' ++ [name'] = place ++ [name]
  · obtain ⟨rfl, -⟩ := List.append_inj' hsame rfl
    rw [find?_put_of_ne _ _ (by simp), hin]
  · rw [find?_put_of_ne _ _ hsame] at hfound
    have hdirectory := h place' name' hfound
    have hother : place' ≠ place ++ [name] := by
      rintro rfl
      exact hfree hdirectory
    rw [find?_put_of_ne _ _ hother, hdirectory]

/-- Below a free place nothing stands. -/
theorem IsTree.free_below (h : fs.IsTree) (hfree : fs.find? place = none) (names : List String) :
    fs.find? (place ++ names) = none := by
  induction names generalizing place with
  | nil => rwa [List.append_nil]
  | cons name names ih =>
    have hbelow : fs.find? (place ++ [name]) = none := Decidable.byContradiction fun hfound => by
      rw [h place name hfound] at hfree
      cases hfree
    have hrest := ih hbelow
    rwa [List.append_assoc] at hrest

/-- A descent through directories to a place where nothing stands finds nothing. -/
theorem descend_of_free (hne : names ≠ []) (hshort : ∀ name ∈ names, name.utf8ByteSize ≤ maxName)
    (hfree : fs.find? (place ++ names) = none)
    (hway : ∀ front, front <+: names → front ≠ [] →
      fs.find? (place ++ front) = none ∨ fs.find? (place ++ front) = some .directory) :
    fs.descend place names = .error .notFound := by
  induction names generalizing place with
  | nil => exact absurd rfl hne
  | cons name names ih =>
    have hentry : fs.entryIn? place name = .ok (fs.find? (place ++ [name])) :=
      entryIn?_eq_ok_iff.2 ⟨hshort name List.mem_cons_self, rfl⟩
    rw [descend, hentry]
    rcases hway [name] ⟨names, rfl⟩ (by simp) with hnone | hdirectory
    · rw [hnone]
    · rw [hdirectory]
      have hrest : names ≠ [] := by
        rintro rfl
        rw [hdirectory] at hfree
        cases hfree
      refine ih hrest (fun name hmem => hshort name (List.mem_cons_of_mem _ hmem)) ?_ ?_
      · rwa [List.append_assoc]
      · intro front hfront _
        rw [List.append_assoc]
        exact hway (name :: front) (List.cons_prefix_cons.2 ⟨rfl, hfront⟩) (by simp)

/-- A descent to below the directories that were made finds what it found before. -/
theorem Grows.descend (h : Grows top fs gs) (htree : fs.IsTree)
    (hshort : ∀ name ∈ names, name.utf8ByteSize ≤ maxName) (hbelow : ¬place ++ names <+: top) :
    gs.descend place names = fs.descend place names := by
  induction names generalizing place with
  | nil => rfl
  | cons name names ih =>
    by_cases hfree : fs.find? (place ++ [name]) = none
    · -- all that stands below the free place now are directories that were made
      have hway : ∀ rest, gs.find? (place ++ name :: rest) = none ∨
          gs.find? (place ++ name :: rest) = some .directory := by
        intro rest
        have hbefore := htree.free_below hfree rest
        rw [List.append_assoc, List.singleton_append] at hbefore
        exact (h.only _).imp (·.trans hbefore) (·.2.1)
      have hlast : gs.find? (place ++ name :: names) = none := by
        have hbefore := htree.free_below hfree names
        rw [List.append_assoc, List.singleton_append] at hbefore
        exact ((h.only _).resolve_right fun hmade => hbelow hmade.2.2).trans hbefore
      have hbefore : fs.descend place (name :: names) = .error .notFound := by
        rw [Files.descend, entryIn?_eq_ok_iff.2 ⟨hshort name List.mem_cons_self, hfree⟩]
      rw [hbefore]
      refine descend_of_free (by simp) hshort hlast fun front hfront hne => ?_
      cases front with
      | nil => exact absurd rfl hne
      | cons first rest =>
        obtain ⟨rfl, -⟩ := List.cons_prefix_cons.1 hfront
        exact hway rest
    · have hsame : gs.find? (place ++ [name]) = fs.find? (place ++ [name]) :=
        (h.only _).resolve_right fun hmade => hfree hmade.1
      have hentry : gs.entryIn? place name = fs.entryIn? place name := by
        rw [entryIn?, entryIn?, hsame]
      have hrest : gs.descend (place ++ [name]) names = fs.descend (place ++ [name]) names := by
        refine ih (fun name hmem => hshort name (List.mem_cons_of_mem _ hmem)) ?_
        rwa [List.append_assoc]
      rw [Files.descend, Files.descend, hentry, hrest]

/-- **In a tree, a path does not notice directories that are made above it.** -/
theorem Grows.read (h : Grows top fs gs) (htree : fs.IsTree) (hup : ".." ∉ p.parts)
    (hshort : ∀ part ∈ p.parts, part.utf8ByteSize ≤ maxName)
    (hbelow : ¬fs.startOf p ++ namesIn p.parts <+: top) : gs.read p = fs.read p := by
  refine read_of_descend hup ?_
  rw [h.startOf]
  exact h.descend htree (fun name hmem => hshort name (List.mem_filter.1 hmem).1) hbelow

end Files

end RedirectLogin
