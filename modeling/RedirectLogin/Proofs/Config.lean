import RedirectLogin.Proofs.Json.Layout
import RedirectLogin.Proofs.Store.Interruptions
import RedirectLogin.Proofs.Text.Utf8
import RedirectLogin.Proofs.Token
import RedirectLogin.Store.ConfigFile

/-!
# Configuration files

A configuration is read back from what is written of it, and a file that has only some of its
members stands for the configuration with the other fields at their defaults (`keeping`). Neither
the order of the members nor their layout matters, nor do members that no field is named after.

Every field is read into the draft by itself (`Reads`), so the members of an object can be taken one
by one: after any of them the draft is the configuration with the fields seen so far
(`readMembersInto_fits`).

Principal results: `reads_members` — the thirteen fields; `ofText_of_members` — an object with some
of them; `write_cases` — what can be read where a file was written; `round_trips_field_by_field` —
all of it.
-/

set_option autoImplicit false

namespace RedirectLogin

namespace Json

/-- A list is read back from an array of what is written for its items. -/
theorem asList_outline {α : Type} {read : Decoder α} {toJson : α → Json}
    (h : ∀ a, read (outline (toJson a)) = .ok a) (as : List α) :
    asList read (outline (.array (as.map toJson))) = .ok as := by
  rw [outline, asList]
  induction as with
  | nil => rfl
  | cons a as ih =>
    rw [List.map_cons, outlines, List.mapM_cons, h a, ih]
    rfl

end Json

theorem AllowedOrigin.decoder_outline (o : AllowedOrigin) :
    AllowedOrigin.decoder (Json.outline o.toJson) = .ok o := by
  have hmembers : Json.readMembersInto fields []
      [(some "scheme", .string o.scheme), (some "host", .string o.host)] ⟨none, none⟩ =
      .ok ⟨some o.scheme, some o.host⟩ := by
    refine (Json.readMembersInto_member rfl rfl rfl).trans ?_
    exact (Json.readMembersInto_member rfl rfl rfl).trans rfl
  have hrecord : Json.readRecord .text "struct AllowedOrigin" fields ⟨none, none⟩
      (Json.outline o.toJson) = .ok ⟨some o.scheme, some o.host⟩ := hmembers
  rw [decoder, hrecord]
  rfl

theorem StorageBackend.decoder_key (s : StorageBackend) :
    StorageBackend.decoder (.string s.key) = .ok s := by
  cases s <;> rfl

namespace Config

/-! ## The members of a configuration -/

/-- The members of a configuration's object, in the order they are written in. -/
def members (c : Config) : List (String × Json) :=
  match c.toJson with
  | .object members => members
  | _ => []

/-- The names of all fields. -/
def fieldNames : List String :=
  fields.map Json.Field.name

theorem map_fst_members (c : Config) : c.members.map Prod.fst = fieldNames := rfl

theorem fieldNames_nodup : fieldNames.Nodup := by decide

/-- The configuration that has `c`'s values in the fields of the names given, and the defaults in
all others. -/
def keeping (c : Config) (names : List String) : Config where
  backendUrl := if "backend_url" ∈ names then c.backendUrl else default.backendUrl
  apiBasePath := if "api_base_path" ∈ names then c.apiBasePath else default.apiBasePath
  provider := if "provider" ∈ names then c.provider else default.provider
  allowedOrigins := if "allowed_origins" ∈ names then c.allowedOrigins else default.allowedOrigins
  loginTimeoutSecs :=
    if "login_timeout_secs" ∈ names then c.loginTimeoutSecs else default.loginTimeoutSecs
  requestTimeoutSecs :=
    if "request_timeout_secs" ∈ names then c.requestTimeoutSecs else default.requestTimeoutSecs
  rotateRefreshTokens :=
    if "rotate_refresh_tokens" ∈ names then c.rotateRefreshTokens else default.rotateRefreshTokens
  refreshPath := if "refresh_path" ∈ names then c.refreshPath else default.refreshPath
  revokePath := if "revoke_path" ∈ names then c.revokePath else default.revokePath
  validatePath := if "validate_path" ∈ names then c.validatePath else default.validatePath
  storage := if "storage" ∈ names then c.storage else default.storage
  keyringAccount := if "keyring_account" ∈ names then c.keyringAccount else default.keyringAccount
  vaultPath := if "vault_path" ∈ names then c.vaultPath else default.vaultPath

/-- With no names at all everything is at its default. -/
theorem keeping_nil (c : Config) : c.keeping [] = default := rfl

/-- With all names nothing is. -/
theorem keeping_fieldNames (c : Config) : c.keeping fieldNames = c := rfl

/-- Neither the order of the names nor their repeats matter. -/
theorem keeping_congr (c : Config) {names names' : List String}
    (h : ∀ name, name ∈ names ↔ name ∈ names') : c.keeping names = c.keeping names' := by
  simp only [keeping, h]

/-! ## Reading one field -/

/-- The member of that name is read by a field, which puts `c`'s value into the draft and leaves the
others alone. -/
def Reads (c : Config) (m : String × Json) : Prop :=
  ∃ f, fields.find? (fun f => f.name == m.1) = some f ∧
    ∀ names, f.read (Json.outline m.2) (c.keeping names) = .ok (c.keeping (m.1 :: names))

/-- What a field reads and what it does with that are independent of each other. -/
theorem reads_of {α : Type} {read : Json.Decoder α} {put : α → Config → Config} {v : α} {c : Config}
    {name : String} {j : Json}
    (hfield : fields.find? (fun f => f.name == name) = some (field name read put))
    (hread : read (Json.outline j) = .ok v)
    (hput : ∀ names, put v (c.keeping names) = c.keeping (name :: names)) : c.Reads (name, j) := by
  refine ⟨field name read put, hfield, fun names => ?_⟩
  rw [← hput names]
  simp only [field, hread]
  rfl

theorem asSeconds_outline {n : Nat} (h : n < UInt64.size) :
    asSeconds (Json.outline (.nat n)) = .ok n := by
  rw [Json.nat, Json.outline, asSeconds, Json.asNatural, if_pos h]

theorem vaultPath_outline (path : Option String) :
    Json.asOptional (Json.asStringOf "path string") (Json.outline (Json.ofOption .string path)) =
      .ok path := by
  cases path <;> rfl

/-- **Each of the thirteen members is read by a field of its own.** -/
theorem reads_members {c : Config} (hlogin : c.loginTimeoutSecs < UInt64.size)
    (hrequest : c.requestTimeoutSecs < UInt64.size) : ∀ m ∈ c.members, c.Reads m := by
  have horigins := Json.asList_outline AllowedOrigin.decoder_outline c.allowedOrigins
  rw [members, toJson]
  simp only [List.forall_mem_cons]
  refine ⟨reads_of rfl rfl ?_, reads_of rfl rfl ?_, reads_of rfl rfl ?_, reads_of rfl horigins ?_,
    reads_of rfl (asSeconds_outline hlogin) ?_, reads_of rfl (asSeconds_outline hrequest) ?_,
    reads_of rfl rfl ?_, reads_of rfl rfl ?_, reads_of rfl rfl ?_, reads_of rfl rfl ?_,
    reads_of rfl (StorageBackend.decoder_key c.storage) ?_, reads_of rfl rfl ?_,
    reads_of rfl (vaultPath_outline c.vaultPath) ?_, by simp⟩
  all_goals
    intro names
    simp [keeping]

/-! ## Reading the members one by one -/

/-- A member that can stand in a file besides others: one of `c`'s own, or one that no field is
named after. -/
inductive Fits (c : Config) : Option String × Json.Outline → Prop
  | own {m : String × Json} (h : m ∈ c.members) : Fits c (some m.1, Json.outline m.2)
  | foreign {key : String} {o : Json.Outline} (hkey : key ∉ fieldNames) (ho : o.isBroken = false) :
      Fits c (some key, o)

/-- The names among those of the members that fields have. -/
def namesIn (members : List (Option String × Json.Outline)) : List String :=
  members.filterMap fun m => m.1.filter fieldNames.contains

theorem namesIn_own {m : String × Json} {c : Config} (h : m ∈ c.members)
    (rest : List (Option String × Json.Outline)) :
    namesIn ((some m.1, Json.outline m.2) :: rest) = m.1 :: namesIn rest := by
  have hname : m.1 ∈ fieldNames := c.map_fst_members ▸ List.mem_map_of_mem h
  have hkept : (some m.1).filter fieldNames.contains = some m.1 :=
    Option.filter_some_pos (by simpa using hname)
  exact List.filterMap_cons_some hkept

theorem namesIn_foreign {key : String} (h : key ∉ fieldNames) (o : Json.Outline)
    (rest : List (Option String × Json.Outline)) :
    namesIn ((some key, o) :: rest) = namesIn rest := by
  have hdropped : (some key).filter fieldNames.contains = none :=
    Option.filter_some_neg (by simpa using h)
  exact List.filterMap_cons_none hdropped

/-- A member that no field is named after is skipped. -/
theorem readMembersInto_foreign {key : String} {o : Json.Outline} (h : key ∉ fieldNames)
    (ho : o.isBroken = false) (seen : List String) (rest : List (Option String × Json.Outline))
    (draft : Config) :
    Json.readMembersInto fields seen ((some key, o) :: rest) draft =
      Json.readMembersInto fields seen rest draft := by
  have hnone : fields.find? (fun f => f.name == key) = none :=
    List.find?_eq_none.2 fun f hf hname => h (List.mem_map.2 ⟨f, hf, eq_of_beq hname⟩)
  rw [Json.readMembersInto, Json.keyOf]
  simp [bind, Except.bind, hnone, ho]

/-- **Members that fit are read into what the names seen so far keep**, whatever their order, as
long as none of the fields' names is repeated. -/
theorem readMembersInto_fits {c : Config} (hreads : ∀ m ∈ c.members, c.Reads m)
    {members : List (Option String × Json.Outline)} (hfits : ∀ m ∈ members, c.Fits m)
    {seen : List String} (hnew : (namesIn members ++ seen).Nodup) :
    Json.readMembersInto fields seen members (c.keeping seen) =
      .ok (c.keeping (namesIn members ++ seen)) := by
  -- the draft is what the names seen so far keep, so it grows along with them
  induction members generalizing seen with
  | nil => rfl
  | cons m rest ih =>
    have hrest : ∀ m ∈ rest, c.Fits m := fun m hm => hfits m (List.mem_cons_of_mem _ hm)
    cases hfits m List.mem_cons_self with
    | @own m hm =>
      rw [namesIn_own hm] at hnew ⊢
      have hfresh : m.1 ∉ seen := fun hseen =>
        (List.nodup_cons.1 hnew).1 (List.mem_append_right _ hseen)
      obtain ⟨f, hfield, hread⟩ := hreads m hm
      rw [Json.readMembersInto_member hfield (by simpa using hfresh) (hread seen),
        ih hrest (List.perm_middle.nodup_iff.2 hnew)]
      exact congrArg Except.ok (c.keeping_congr fun name => List.perm_middle.mem_iff)
    | foreign hkey ho =>
      rw [namesIn_foreign hkey] at hnew ⊢
      rw [readMembersInto_foreign hkey ho]
      exact ih hrest hnew

/-- The names of some of `c`'s members, with others that no field is named after. -/
theorem namesIn_append {c : Config} {kept : List (String × Json)} (hkept : kept.Sublist c.members)
    {extra : List (Option String × Json.Outline)}
    (hextra : ∀ m ∈ extra, ∃ key, m.1 = some key ∧ key ∉ fieldNames) :
    namesIn (Json.memberOutlines kept ++ extra) = kept.map Prod.fst := by
  have hforeign : namesIn extra = [] := by
    refine List.filterMap_eq_nil_iff.2 fun m hm => ?_
    obtain ⟨key, hkey, hno⟩ := hextra m hm
    simp [hkey, hno]
  have hown : ∀ ms : List (String × Json), (∀ m ∈ ms, m ∈ c.members) →
      namesIn (Json.memberOutlines ms) = ms.map Prod.fst := by
    intro ms hms
    induction ms with
    | nil => rfl
    | cons m ms ih =>
      rw [Json.memberOutlines, namesIn_own (hms m List.mem_cons_self),
        ih fun m hm => hms m (List.mem_cons_of_mem _ hm), List.map_cons]
  rw [namesIn, List.filterMap_append, ← namesIn, ← namesIn, hforeign, hown kept hkept.subset,
    List.append_nil]

/-! ## Whole texts -/

/-- **An object with some of `c`'s members is read as `c` with the other fields at their defaults**,
whatever the order of the members, with whatever others between them. -/
theorem ofText_of_members {c : Config} (hreads : ∀ m ∈ c.members, c.Reads m)
    {kept : List (String × Json)} (hkept : kept.Sublist c.members)
    {extra members : List (Option String × Json.Outline)}
    (hextra : ∀ m ∈ extra, ∃ key, m.1 = some key ∧ key ∉ fieldNames)
    (horder : members.Perm (Json.memberOutlines kept ++ extra)) {text : String}
    (htext : Json.Outline.ofText text = (.object members, true)) :
    ofText text = .ok (c.keeping (kept.map Prod.fst)) := by
  have hnames : (namesIn members).Perm (kept.map Prod.fst) :=
    namesIn_append hkept hextra ▸ horder.filterMap _
  have hnodup : (kept.map Prod.fst).Nodup :=
    fieldNames_nodup.sublist (c.map_fst_members ▸ hkept.map Prod.fst)
  have hfits : ∀ m ∈ members, c.Fits m := by
    intro m hm
    -- a member that is skipped must be JSON, which it is because the whole text is
    have hwhole := Json.Outline.unbroken_of_complete htext m hm
    rcases List.mem_append.1 (horder.mem_iff.1 hm) with hown | hforeign
    · rw [Json.memberOutlines_eq_map] at hown
      obtain ⟨own, hmem, rfl⟩ := List.mem_map.1 hown
      exact .own (hkept.subset hmem)
    · obtain ⟨key, hkey, hno⟩ := hextra m hforeign
      obtain ⟨_, o⟩ := m
      obtain rfl : _ = some key := hkey
      exact .foreign hno hwhole
  have hnew : (namesIn members ++ []).Nodup := by
    rw [List.append_nil]
    exact hnames.nodup_iff.2 hnodup
  have hrun := readMembersInto_fits hreads hfits hnew
  rw [keeping_nil, List.append_nil] at hrun
  refine Json.decode_eq_ok_iff.2 ⟨?_, by rw [htext]⟩
  rw [htext, decoder, Json.readRecord, hrun, c.keeping_congr fun name => hnames.mem_iff]

theorem toJson_plain {c : Config} (hlogin : c.loginTimeoutSecs < UInt64.size)
    (hrequest : c.requestTimeoutSecs < UInt64.size) : c.toJson.Plain := by
  have horigins : ∀ os : List AllowedOrigin, Json.PlainItems (os.map AllowedOrigin.toJson) := by
    intro os
    induction os with
    | nil => trivial
    | cons o os ih => exact ⟨⟨trivial, trivial, trivial⟩, ih⟩
  have hpath : (Json.ofOption .string c.vaultPath).Plain := by cases c.vaultPath <;> trivial
  exact ⟨trivial, trivial, trivial, horigins _, hlogin, hrequest, trivial, trivial, trivial,
    trivial, trivial, trivial, hpath, trivial⟩

/-! ## Files -/

end Config

namespace Files

theorem isPresent_of_read {fs : Files} {p : Path} {bytes : List UInt8} (h : fs.read p = .ok bytes) :
    fs.isPresent p = true := by
  obtain ⟨entry, hlookup, -⟩ := bind_eq_ok_iff.1 h
  rw [isPresent, hlookup]
  rfl

/-- **A file is refused whatever its bytes are, or they are what can be read there afterwards.** -/
theorem write_cases (fs : Files) (path : Path) (mode : Nat) :
    (∃ e gs, ∀ bytes, fs.write path mode bytes = (.error e, gs)) ∨
      ∀ bytes, ∃ gs, fs.write path mode bytes = (.ok (), gs) ∧ gs.read path = .ok bytes := by
  simp only [write, FileStep.writing, FileStep.runAll_append]
  rcases FileStep.runAll (path.parent?.toList.map .makeDirectories) fs with ⟨e | ⟨⟩, gs⟩
  · exact .inl ⟨e, gs, fun _ => rfl⟩
  cases htruncate : gs.truncate path mode with
  | error e =>
    have hrefused : FileStep.run (.truncate path mode) gs = (.error e, gs) := by
      rw [FileStep.run, htruncate]
      rfl
    exact .inl ⟨e, gs, fun bytes => by simp only [FileStep.runAll, hrefused]⟩
  | ok hs =>
    obtain ⟨place, hplace, rfl⟩ := put_of_truncate htruncate
    refine .inr fun bytes => ⟨gs.put place (.file bytes (gs.modeAt place mode)), ?_, ?_⟩
    · simp only [FileStep.runAll, FileStep.run, htruncate, hplace.append_put, FileStep.wholly,
        List.nil_append]
    · exact (hplace.put hplace.not_directory bytes _).read_of_file
        (find?_put_self _ _ hplace.ne_nil)

end Files

namespace Config

/-- A configuration is loaded from a file that holds its text. -/
theorem load_of_read {c : Config} {directory : Path} {fs : Files}
    (htext : ofText c.fileText = .ok c)
    (hread : fs.read (location directory) = .ok (Text.bytes c.fileText)) :
    load directory fs = .ok c := by
  have hreadText : fs.readText (location directory) = .ok c.fileText := by
    rw [Files.readText, hread]
    simp [bind, Except.bind, Text.bytes, Text.decode?_encode]
  rw [load, if_pos (Files.isPresent_of_read hread), hreadText]
  simp only [htext]

/-- A configuration that is saved is loaded again, and whether it can be saved does not depend on
what it is. -/
theorem save_cases (directory : Path) (files : Files) :
    (∃ e gs, ∀ c : Config, c.save directory files = (.error e, gs)) ∨
      ∀ c : Config, ofText c.fileText = .ok c →
        ∃ gs, c.save directory files = (.ok (), gs) ∧ load directory gs = .ok c := by
  rcases files.write_cases (location directory) fileMode with ⟨e, gs, hrefused⟩ | hwritten
  · exact .inl ⟨.io e, gs, fun c => by rw [save, hrefused]⟩
  · refine .inr fun c htext => ?_
    obtain ⟨gs, hwrite, hread⟩ := hwritten (Text.bytes c.fileText)
    exact ⟨gs, by rw [save, hwrite], load_of_read htext hread⟩

/-! ## All of it -/

/-- **A configuration is read back from its text in both layouts and from the file it is saved in**,
unless the system refuses files there altogether. And of an object that has only some of its
members, `kept`, in any order and with whatever others between them that no field is named after,
the fields kept are read and the others take their defaults: in whatever way that object is written
(`Json.Outline.ofText` is all that a reader sees of a text), and so in particular in both layouts.
-/
theorem round_trips_field_by_field (c : Config) (hlogin : c.loginTimeoutSecs < UInt64.size)
    (hrequest : c.requestTimeoutSecs < UInt64.size) :
    ofText c.toJson.compact = .ok c ∧
      ofText c.fileText = .ok c ∧
      (∀ directory files,
        (∃ gs, c.save directory files = (.ok (), gs) ∧ load directory gs = .ok c) ∨
          ∃ e gs, ∀ c' : Config, c'.save directory files = (.error e, gs)) ∧
      (∀ kept : List (String × Json), kept.Sublist c.members →
        (∀ (extra members : List (Option String × Json.Outline)) (text : String),
          (∀ m ∈ extra, ∃ key, m.1 = some key ∧ key ∉ fieldNames) →
          members.Perm (Json.memberOutlines kept ++ extra) →
          Json.Outline.ofText text = (.object members, true) →
          ofText text = .ok (c.keeping (kept.map Prod.fst))) ∧
        ∀ extra members : List (String × Json),
          (∀ m ∈ extra, m.1 ∉ fieldNames ∧ m.2.Plain) → members.Perm (kept ++ extra) →
          ofText (Json.object members).compact = .ok (c.keeping (kept.map Prod.fst)) ∧
            ofText (Json.object members).pretty = .ok (c.keeping (kept.map Prod.fst))) := by
  have hreads := reads_members hlogin hrequest
  have hplain := toJson_plain hlogin hrequest
  have hmembers : ∀ m ∈ c.members, m.2.Plain := Json.plainMembers_iff.1 hplain
  have hall : ∀ text, Json.Outline.ofText text = (Json.outline c.toJson, true) →
      ofText text = .ok c := by
    intro text htext
    have hnone : ∀ m ∈ ([] : List (Option String × Json.Outline)),
        ∃ key, m.1 = some key ∧ key ∉ fieldNames := fun m hm => absurd hm List.not_mem_nil
    have hread := ofText_of_members hreads (List.Sublist.refl _) hnone
      (List.Perm.of_eq (List.append_nil _).symm) htext
    rwa [map_fst_members, keeping_fieldNames] at hread
  have hpretty := hall c.fileText (Json.ofText_pretty hplain)
  refine ⟨hall _ (Json.ofText_compact hplain), hpretty, fun directory files => ?_,
    fun kept hkept => ⟨fun extra members text hextra horder htext =>
      ofText_of_members hreads hkept hextra horder htext, fun extra members hextra horder => ?_⟩⟩
  · exact (save_cases directory files).symm.imp_left fun hsaved => hsaved c hpretty
  · have hobject : (Json.object members).Plain := by
      refine Json.plainMembers_iff.2 fun m hm => ?_
      rcases List.mem_append.1 (horder.mem_iff.1 hm) with hown | hforeign
      · exact hmembers m (hkept.subset hown)
      · exact (hextra m hforeign).2
    have houtlines : (Json.memberOutlines members).Perm
        (Json.memberOutlines kept ++ Json.memberOutlines extra) := by
      simp only [Json.memberOutlines_eq_map, ← List.map_append]
      exact horder.map _
    have hforeign : ∀ m ∈ Json.memberOutlines extra, ∃ key, m.1 = some key ∧ key ∉ fieldNames := by
      rw [Json.memberOutlines_eq_map]
      intro m hm
      obtain ⟨own, hmem, rfl⟩ := List.mem_map.1 hm
      exact ⟨own.1, rfl, (hextra own hmem).1⟩
    exact ⟨ofText_of_members hreads hkept hforeign houtlines (Json.ofText_compact hobject),
      ofText_of_members hreads hkept hforeign houtlines (Json.ofText_pretty hobject)⟩

/-- Names and paths with quotes, backslashes and line breaks come back from a file. A file with two
of the members in another order, and one with a number out of range that nothing reads, leaves the
rest at the defaults. -/
theorem odd_names_come_back :
    let c : Config := { default with
      provider := "a\"b\n", allowedOrigins := [⟨"http", "127.0.0.1"⟩, ⟨"", "gö"⟩],
      loginTimeoutSecs := 18446744073709551615, storage := .vault, vaultPath := some "C:\\v" }
    let directory := Path.ofText "/etc"
    let files := (Files.empty.put ["etc"] .directory).put ["etc", "authlink"] .directory
    c.loginTimeoutSecs < UInt64.size ∧ c.requestTimeoutSecs < UInt64.size ∧
      (∃ gs, c.save directory files = (.ok (), gs) ∧ load directory gs = .ok c) ∧
      ofText "\x7b\"storage\":\"vault\",\"theme\":[1e999],\n\"provider\": \"a\\u0022b\\n\"\x7d" =
        .ok { default with provider := "a\"b\n", storage := .vault } := by
  intro c directory files
  have hlogin : c.loginTimeoutSecs < UInt64.size := by decide
  have hrequest : c.requestTimeoutSecs < UInt64.size := by decide
  obtain ⟨-, -, hfile, hsome⟩ := round_trips_field_by_field c hlogin hrequest
  refine ⟨hlogin, hrequest, (hfile directory files).resolve_right ?_, ?_⟩
  · rintro ⟨e, gs, hrefused⟩
    have hlocation : location directory = ⟨true, ["etc", "authlink", "config.json"]⟩ := by decide
    have hmade : FileStep.run (.makeDirectories ⟨true, ["etc", "authlink"]⟩) files =
        (.ok (), files) := Files.Made.makeDirectories (.inr (by decide))
    have hsaved : (default.save directory files).1 = .ok () := by
      have hparent : (location directory).parent?.toList = [⟨true, ["etc", "authlink"]⟩] := by
        decide
      rw [save, Files.write, FileStep.writing, hparent, List.map_singleton, List.singleton_append,
        FileStep.runAll_of_run hmade, hlocation]
      rfl
    rw [hrefused default] at hsaved
    cases hsaved
  · have hkept : (c.members.filter fun m => m.1 == "provider" || m.1 == "storage").Sublist
        c.members := List.filter_sublist
    have hextra : ∀ m ∈ [(some "theme", Json.Outline.array [.valueless])],
        ∃ key, m.1 = some key ∧ key ∉ fieldNames := by
      simp only [List.mem_singleton, forall_eq]
      exact ⟨"theme", rfl, by decide⟩
    exact (hsome _ hkept).1 _
      [(some "storage", .string "vault"), (some "theme", .array [.valueless]),
        (some "provider", .string "a\"b\n")] _ hextra (List.perm_append_singleton _ [_, _]) rfl

end Config

end RedirectLogin
