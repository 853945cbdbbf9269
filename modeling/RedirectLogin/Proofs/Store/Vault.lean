import RedirectLogin.Proofs.Store.Envelope
import RedirectLogin.Store.Vault

/-!
# What a vault opens

A vault reads a token set from a file exactly when the file is an envelope whose ciphertext is the
encryption of a record of that token set under the key of the vault's passphrase. The key cache does
not matter for this: whatever a vault object has done before, the key it keeps is the one that it
would derive (`Honest`).

Principal results: `Reachable.honest` — the cache of every vault object is honest;
`opens_what_was_sealed` — what a load returns, in both directions.
-/

set_option autoImplicit false

namespace RedirectLogin.Vault

open Cipher (Argon2id.Params Argon2id.derive)

variable {v : Vault} {s : VaultState} {cache : KeyCache} {salt : List UInt8}
  {costs : Argon2id.Params} {tokens : TokenSet}

/-! ## The key cache -/

/-- The caches that a vault object can have: none at first, then what its own operations leave,
whatever files they meet and whatever random bytes they draw. -/
inductive Reachable (v : Vault) : KeyCache → Prop
  | new : Reachable v none
  | save {s : VaultState} (tokens : TokenSet) (before : Reachable v s.cache) :
      Reachable v (v.save tokens s).2.cache
  | load {s : VaultState} (before : Reachable v s.cache) : Reachable v (v.load s).2.cache
  | clear {s : VaultState} (before : Reachable v s.cache) : Reachable v (v.clear s).2.cache

/-- A kept key is the one that the passphrase gives for its salt and costs, and the salt is one
that fits into an envelope. -/
def Honest (v : Vault) (cache : KeyCache) : Prop :=
  ∀ kept, cache = some kept → kept.salt.length = Envelope.saltLength ∧
    v.deriveKey kept.salt kept.costs = .ok kept.key

theorem honest_none (v : Vault) : v.Honest none := fun _ h => nomatch h

theorem deriveKey_eq_ok_iff {key : List UInt8} :
    v.deriveKey salt costs = .ok key ↔
      costs.check = .ok () ∧
        key = Argon2id.derive costs (Text.bytes v.passphrase) salt Envelope.keyLength := by
  unfold deriveKey
  cases hcheck : costs.check with
  | error e => simp
  | ok u => simp [eq_comm]

/-- **A kept key changes no answer**, and what is kept afterwards is honest again. -/
theorem keyFor_of_honest (h : v.Honest cache) (hsalt : salt.length = Envelope.saltLength)
    (costs : Argon2id.Params) :
    (v.keyFor cache salt costs).1 = v.deriveKey salt costs ∧
      v.Honest (v.keyFor cache salt costs).2 := by
  unfold keyFor
  split
  · rename_i kept hkept
    obtain ⟨hcache, hmatch⟩ := Option.filter_eq_some_iff.1 hkept
    simp only [Bool.and_eq_true, beq_iff_eq] at hmatch
    obtain ⟨rfl, rfl⟩ := hmatch
    exact ⟨(h kept hcache).2.symm, h⟩
  · split
    · rename_i key hkey
      refine ⟨hkey.symm, ?_⟩
      rintro kept ⟨⟩
      exact ⟨hsalt, hkey⟩
    · rename_i e hkey
      exact ⟨hkey.symm, h⟩

/-- The key that was asked for is the one that is kept. -/
theorem keyFor_of_ok {key : List UInt8} (h : (v.keyFor cache salt costs).1 = .ok key) :
    (v.keyFor cache salt costs).2 = some ⟨salt, costs, key⟩ := by
  unfold keyFor at h ⊢
  split at h
  · rename_i kept hkept
    obtain ⟨hcache, hmatch⟩ := Option.filter_eq_some_iff.1 hkept
    simp only [Bool.and_eq_true, beq_iff_eq] at hmatch
    obtain ⟨rfl, rfl⟩ := hmatch
    obtain rfl := Except.ok.inj h
    exact hcache
  · cases hkey : v.deriveKey salt costs with
    | error e =>
      rw [hkey] at h
      cases h
    | ok key' =>
      rw [hkey] at h
      obtain rfl := Except.ok.inj h
      rfl

theorem keyFor_of_error {e : StoreError} (h : (v.keyFor cache salt costs).1 = .error e) :
    (v.keyFor cache salt costs).2 = cache := by
  unfold keyFor at h ⊢
  split at h
  · cases h
  · cases hkey : v.deriveKey salt costs with
    | error e => rfl
    | ok key =>
      rw [hkey] at h
      cases h

/-- There is a key for all costs that are acceptable. -/
theorem exists_keyFor (h : v.Honest cache) (hsalt : salt.length = Envelope.saltLength)
    (hcosts : costs.check = .ok ()) : ∃ key, (v.keyFor cache salt costs).1 = .ok key :=
  ⟨_, (keyFor_of_honest h hsalt costs).1.trans (deriveKey_eq_ok_iff.2 ⟨hcosts, rfl⟩)⟩

/-- The salt of a save fits into an envelope. -/
theorem chooseSalt_length (h : v.Honest s.cache) :
    (v.chooseSalt s).1.length = Envelope.saltLength := by
  unfold chooseSalt
  split
  · rename_i kept hkept
    exact (h kept (Option.filter_eq_some_iff.1 hkept).1).1
  · exact Entropy.draw_length _ _

/-- Only keys go into the cache, and only by `keyFor`. -/
theorem save_cache (v : Vault) (tokens : TokenSet) (s : VaultState) :
    (v.save tokens s).2.cache = (v.keyFor s.cache (v.chooseSalt s).1 v.costs).2 := by
  unfold save
  simp only
  split <;> rename_i hkey <;> rw [hkey]
  split <;> rfl

theorem exists_save_cache (h : v.Honest s.cache) (hcosts : v.costs.check = .ok ())
    (tokens : TokenSet) :
    ∃ key, (v.save tokens s).2.cache = some ⟨(v.chooseSalt s).1, v.costs, key⟩ := by
  obtain ⟨key, hkey⟩ := exists_keyFor h (chooseSalt_length h) hcosts
  exact ⟨key, (save_cache v tokens s).trans (keyFor_of_ok hkey)⟩

/-- The file at the vault's path is an envelope that says this. -/
def Reads (v : Vault) (files : Files) (parts : Envelope.Parts) : Prop :=
  ∃ envelope, v.readEnvelope files = .ok (some envelope) ∧ envelope.parts = .ok parts

theorem Reads.salt_length {files : Files} {parts : Envelope.Parts} (h : v.Reads files parts) :
    parts.salt.length = Envelope.saltLength := by
  obtain ⟨envelope, -, hparts⟩ := h
  obtain ⟨-, -, ⟨-, hsalt⟩, -⟩ := Envelope.parts_eq_ok_iff.1 hparts
  exact hsalt

/-- A load asks for the key of what it reads, and keeps it. -/
theorem load_of_reads {parts : Envelope.Parts} (h : v.Reads s.files parts) :
    (v.load s).2 = { s with cache := (v.keyFor s.cache parts.salt parts.costs).2 } := by
  obtain ⟨envelope, hread, hparts⟩ := h
  simp only [load, hread, openEnvelope, hparts]
  rcases v.keyFor s.cache parts.salt parts.costs with ⟨_ | key, cache⟩ <;> rfl

/-- That is all that a load does. -/
theorem load_cases (v : Vault) (s : VaultState) :
    (v.load s).2 = s ∨ ∃ parts, v.Reads s.files parts ∧
      (v.load s).2 = { s with cache := (v.keyFor s.cache parts.salt parts.costs).2 } := by
  rcases hread : v.readEnvelope s.files with e | _ | envelope
  · exact .inl (by simp only [load, hread])
  · exact .inl (by simp only [load, hread])
  · cases hparts : envelope.parts with
    | error e => exact .inl (by simp only [load, hread, openEnvelope, hparts])
    | ok parts =>
      have hreads : v.Reads s.files parts := ⟨envelope, hread, hparts⟩
      exact .inr ⟨parts, hreads, load_of_reads hreads⟩

theorem load_honest (h : v.Honest s.cache) : v.Honest (v.load s).2.cache := by
  rcases load_cases v s with hsame | ⟨parts, hreads, hload⟩
  · rwa [hsame]
  · rw [hload]
    exact (keyFor_of_honest h hreads.salt_length parts.costs).2

theorem clear_cache (v : Vault) (s : VaultState) : (v.clear s).2.cache = s.cache := by
  unfold clear
  split <;> rfl

/-- **The cache of a vault object is honest**, whatever the object has done. -/
theorem Reachable.honest (h : v.Reachable cache) : v.Honest cache := by
  induction h with
  | new => exact honest_none v
  | save tokens _ ih =>
    rw [save_cache]
    exact (keyFor_of_honest ih (chooseSalt_length ih) _).2
  | load _ ih => exact load_honest ih
  | clear _ ih =>
    rw [clear_cache]
    exact ih

/-! ## What a file keeps -/

/-- What keeping a token set takes, part by part: the text of an envelope that this build knows,
whose ciphertext is the encryption of a record of the token set. -/
structure Sealed (passphrase : String) (content : List UInt8) (tokens : TokenSet) (text : String)
    (e : Envelope) (salt nonce record : List UInt8) : Prop where
  utf8 : content = Text.bytes text
  json : Json.decode Envelope.decoder text = .ok e
  version : e.version = 1
  saltText : Text.Base64.decode (Text.bytes e.salt) = .ok salt
  saltLength : salt.length = 16
  nonceText : Text.Base64.decode (Text.bytes e.nonce) = .ok nonce
  nonceLength : nonce.length = 12
  costs : e.costs.check = .ok ()
  ciphertext : Text.Base64.decode (Text.bytes e.ciphertext) =
    .ok (Cipher.encrypt (Argon2id.derive e.costs (Text.bytes passphrase) salt 32) nonce record)
  record : Json.decodeBytes TokenSet.decoder record = .ok tokens

/-- A file's content keeps a token set for a passphrase. -/
def Keeps (passphrase : String) (content : List UInt8) (tokens : TokenSet) : Prop :=
  ∃ text e salt nonce record, Sealed passphrase content tokens text e salt nonce record

theorem openTokens_eq_ok_iff {key nonce sealed : List UInt8} :
    openTokens key nonce sealed = .ok tokens ↔
      ∃ record, sealed = Cipher.encrypt key nonce record ∧
        Json.decodeBytes TokenSet.decoder record = .ok tokens := by
  unfold openTokens
  cases hopen : Cipher.decrypt? key nonce sealed with
  | none =>
    refine ⟨fun h => (nomatch h), ?_⟩
    rintro ⟨record, hsealed, -⟩
    rw [Cipher.decrypt?_eq_some_iff.2 hsealed] at hopen
    cases hopen
  | some record =>
    have hsealed := Cipher.decrypt?_eq_some_iff.1 hopen
    have honly : ∀ other, sealed = Cipher.encrypt key nonce other → other = record := by
      intro other hother
      rw [Cipher.decrypt?_eq_some_iff.2 hother] at hopen
      exact Option.some.inj hopen
    constructor
    · intro h
      refine ⟨record, hsealed, ?_⟩
      simp only at h
      split at h
      · rename_i hdecode
        rw [hdecode, Except.ok.inj h]
      · cases h
    · rintro ⟨other, hother, hdecode⟩
      rw [honly other hother] at hdecode
      simp only [hdecode]

theorem openEnvelope_eq_ok_iff (h : v.Honest cache) {e : Envelope} :
    (v.openEnvelope cache e).1 = .ok tokens ↔
      ∃ parts record, e.parts = .ok parts ∧ parts.costs.check = .ok () ∧
        parts.sealed = Cipher.encrypt (Argon2id.derive parts.costs (Text.bytes v.passphrase)
          parts.salt Envelope.keyLength) parts.nonce record ∧
        Json.decodeBytes TokenSet.decoder record = .ok tokens := by
  unfold openEnvelope
  cases hparts : e.parts with
  | error err =>
    refine ⟨fun h => (nomatch h), ?_⟩
    rintro ⟨parts, record, hok, -⟩
    cases hok
  | ok parts =>
    obtain ⟨-, -, ⟨-, hsalt⟩, -⟩ := Envelope.parts_eq_ok_iff.1 hparts
    have hkey := (keyFor_of_honest h hsalt parts.costs).1
    simp only
    split
    · rename_i err cache' hfor
      rw [hfor] at hkey
      refine ⟨fun h => (nomatch h), ?_⟩
      rintro ⟨parts', record, hok, hcheck, -⟩
      obtain rfl := Except.ok.inj hok
      rw [deriveKey_eq_ok_iff.2 ⟨hcheck, rfl⟩] at hkey
      cases hkey
    · rename_i key cache' hfor
      rw [hfor] at hkey
      obtain ⟨hcheck, rfl⟩ := deriveKey_eq_ok_iff.1 hkey.symm
      rw [openTokens_eq_ok_iff]
      constructor
      · rintro ⟨record, hsealed, hrecord⟩
        exact ⟨parts, record, rfl, hcheck, hsealed, hrecord⟩
      · rintro ⟨parts', record, hok, -, hsealed, hrecord⟩
        obtain rfl := Except.ok.inj hok
        exact ⟨record, hsealed, hrecord⟩

/-! ## What a load returns -/

theorem readText_eq_ok_iff {fs : Files} {p : Path} {text : String} :
    fs.readText p = .ok text ↔ fs.read p = .ok (Text.bytes text) := by
  rw [Files.readText, bind_eq_ok_iff]
  constructor
  · rintro ⟨content, hread, hdecode⟩
    split at hdecode
    · rename_i cs hcs
      obtain rfl := Except.ok.inj hdecode
      rw [hread, Text.decode?_eq_some_iff.1 hcs, Text.bytes, String.toList_ofList]
    · cases hdecode
  · intro hread
    refine ⟨_, hread, ?_⟩
    rw [Text.bytes, Text.decode?_encode]
    simp only [String.ofList_toList]

theorem readText_eq_notFound_iff {fs : Files} {p : Path} :
    fs.readText p = .error .notFound ↔ fs.read p = .error .notFound := by
  unfold Files.readText
  cases hread : fs.read p with
  | error e => simp [bind, Except.bind]
  | ok content =>
    simp only [bind, Except.bind]
    split <;> simp

/-- A load finds no token set exactly when there is no file. -/
theorem load_eq_none_iff :
    (v.load s).1 = .ok none ↔ s.files.read v.path = .error .notFound := by
  rw [← readText_eq_notFound_iff]
  unfold load readEnvelope
  cases htext : s.files.readText v.path with
  | error e =>
    cases e <;> simp
  | ok text =>
    simp only
    cases Envelope.ofText text with
    | error e => simp [Except.map]
    | ok e =>
      simp only [Except.map]
      cases (v.openEnvelope s.cache e).1 <;> simp

theorem ofText_eq_ok_iff {text : String} {e : Envelope} :
    Envelope.ofText text = .ok e ↔ Json.decode Envelope.decoder text = .ok e := by
  unfold Envelope.ofText
  cases Json.decode Envelope.decoder text <;> simp

/-- A load finds a token set exactly when the file keeps it. -/
theorem load_eq_some_iff (h : v.Honest s.cache) :
    (v.load s).1 = .ok (some tokens) ↔
      ∃ content, s.files.read v.path = .ok content ∧ Keeps v.passphrase content tokens := by
  have hload : (v.load s).1 = .ok (some tokens) ↔
      ∃ text e, s.files.readText v.path = .ok text ∧ Envelope.ofText text = .ok e ∧
        (v.openEnvelope s.cache e).1 = .ok tokens := by
    unfold load readEnvelope
    cases htext : s.files.readText v.path with
    | error e => cases e <;> simp
    | ok text =>
      simp only
      cases hof : Envelope.ofText text with
      | error e => simp [Except.map, hof]
      | ok e =>
        simp only [Except.map]
        cases hopen : (v.openEnvelope s.cache e).1 <;> simp [hof, hopen]
  rw [hload]
  constructor
  · rintro ⟨text, e, hread, hjson, hopen⟩
    obtain ⟨parts, record, hparts, hcheck, hsealed, hrecord⟩ := (openEnvelope_eq_ok_iff h).1 hopen
    obtain ⟨hversion, hcosts, ⟨hsalt, hsaltLength⟩, ⟨hnonce, hnonceLength⟩, hciphertext⟩ :=
      Envelope.parts_eq_ok_iff.1 hparts
    refine ⟨_, readText_eq_ok_iff.1 hread, text, e, parts.salt, parts.nonce, record, ?_⟩
    rw [hsealed, ← hcosts] at hciphertext
    exact ⟨rfl, ofText_eq_ok_iff.1 hjson, hversion, hsalt, hsaltLength, hnonce, hnonceLength,
      hcosts ▸ hcheck, hciphertext, hrecord⟩
  · rintro ⟨content, hread, text, e, salt, nonce, record, hsealed⟩
    have hparts : e.parts = .ok ⟨e.costs, salt, nonce, Cipher.encrypt
        (Argon2id.derive e.costs (Text.bytes v.passphrase) salt 32) nonce record⟩ :=
      Envelope.parts_eq_ok_iff.2 ⟨hsealed.version, rfl, ⟨hsealed.saltText, hsealed.saltLength⟩,
        ⟨hsealed.nonceText, hsealed.nonceLength⟩, hsealed.ciphertext⟩
    exact ⟨text, e, readText_eq_ok_iff.2 (hsealed.utf8 ▸ hread), ofText_eq_ok_iff.2 hsealed.json,
      (openEnvelope_eq_ok_iff h).2 ⟨_, record, hparts, hsealed.costs, rfl, hsealed.record⟩⟩

/-- What a save writes keeps the tokens it was given. -/
theorem keeps_sealTokens {key nonce : List UInt8} (hkey : v.deriveKey salt v.costs = .ok key)
    (hsalt : salt.length = Envelope.saltLength) (hnonce : nonce.length = Envelope.nonceLength)
    (hmoment : tokens.savedAt.IsMoment) :
    Keeps v.passphrase (Text.bytes (v.sealTokens key salt nonce tokens)) tokens := by
  obtain ⟨hcheck, rfl⟩ := deriveKey_eq_ok_iff.1 hkey
  have hrecord : Json.decodeBytes TokenSet.decoder (Text.bytes tokens.record) = .ok tokens := by
    rw [Json.decodeBytes, Text.bytes, Text.decodeMarked_encode, String.ofList_toList]
    exact TokenSet.ofRecord_record hmoment
  have hversion : Envelope.currentVersion < UInt8.size := by decide
  exact ⟨_, _, salt, nonce, _, rfl, ofText_eq_ok_iff.1 (Envelope.ofText_text hversion), rfl,
    Text.Base64.decode_write salt, hsalt, Text.Base64.decode_write nonce, hnonce, hcheck,
    Text.Base64.decode_write _, hrecord⟩

/-- A key and a nonce give one tag for what is hidden. -/
theorem tag_unique {key nonce hidden tag tag' record record' : List UInt8} (hlen : tag.length = 16)
    (hlen' : tag'.length = 16) (h : hidden ++ tag = Cipher.encrypt key nonce record)
    (h' : hidden ++ tag' = Cipher.encrypt key nonce record') : tag = tag' := by
  have hsplit : ∀ {t r : List UInt8}, t.length = 16 → hidden ++ t = Cipher.encrypt key nonce r →
      t = Cipher.signature key nonce hidden := by
    intro t r ht heq
    rw [Cipher.encrypt] at heq
    obtain ⟨hhidden, htag⟩ := List.append_inj' heq (by rw [ht, Cipher.signature_length])
    rw [htag, hhidden]
  rw [hsplit hlen h, hsplit hlen' h']

/-- Some load of the vault finds tokens in a file that says this. -/
def Accepts (v : Vault) (parts : Envelope.Parts) : Prop :=
  ∃ s text e tokens, v.Reachable s.cache ∧ s.files.read v.path = .ok (Text.bytes text) ∧
    Json.decode Envelope.decoder text = .ok e ∧ e.parts = .ok parts ∧
      (v.load s).1 = .ok (some tokens)

theorem Accepts.sealed {parts : Envelope.Parts} (h : v.Accepts parts) :
    ∃ record, parts.sealed = Cipher.encrypt (Argon2id.derive parts.costs (Text.bytes v.passphrase)
      parts.salt Envelope.keyLength) parts.nonce record := by
  obtain ⟨s, text, e, tokens, hreach, hread, hjson, hparts, hload⟩ := h
  have htext := readText_eq_ok_iff.2 hread
  have hopen : (v.openEnvelope s.cache e).1 = .ok tokens := by
    unfold load readEnvelope at hload
    simp only [htext, ofText_eq_ok_iff.2 hjson, Except.map] at hload
    cases hresult : (v.openEnvelope s.cache e).1 with
    | error err => simp [hresult] at hload
    | ok found =>
      simp only [hresult, Except.ok.injEq, Option.some.injEq] at hload
      rw [hload]
  obtain ⟨parts', record, hok, -, hsealed, -⟩ := (openEnvelope_eq_ok_iff hreach.honest).1 hopen
  obtain rfl := Except.ok.inj (hparts.symm.trans hok)
  exact ⟨record, hsealed⟩

/-- **The vault opens exactly what was sealed**, whatever the vault object has done before and
whatever its file holds. There is no token set exactly when the system finds no file, there is this
token set exactly when the file keeps it, every other file is an error, and no load changes a file.
Of all the tags that can stand behind the same hidden bytes, at most one is ever accepted. -/
theorem opens_what_was_sealed (h : v.Reachable s.cache) :
    ((v.load s).1 = .ok none ↔ s.files.read v.path = .error .notFound) ∧
      (∀ tokens, (v.load s).1 = .ok (some tokens) ↔
        ∃ content, s.files.read v.path = .ok content ∧ Keeps v.passphrase content tokens) ∧
      (∀ content, s.files.read v.path = .ok content →
        (∀ tokens, ¬Keeps v.passphrase content tokens) → ∃ e, (v.load s).1 = .error e) ∧
      (v.load s).2.files = s.files ∧
      ∀ costs salt nonce hidden tag tag', tag.length = 16 → tag'.length = 16 →
        v.Accepts ⟨costs, salt, nonce, hidden ++ tag⟩ →
        v.Accepts ⟨costs, salt, nonce, hidden ++ tag'⟩ → tag = tag' := by
  refine ⟨load_eq_none_iff, fun tokens => load_eq_some_iff h.honest, ?_, load_files v s, ?_⟩
  · intro content hread hother
    match hload : (v.load s).1 with
    | .error e => exact ⟨e, rfl⟩
    | .ok none =>
      rw [load_eq_none_iff.1 hload] at hread
      cases hread
    | .ok (some tokens) =>
      obtain ⟨content', hread', hkeeps⟩ := (load_eq_some_iff h.honest).1 hload
      obtain rfl := Except.ok.inj (hread.symm.trans hread')
      exact absurd hkeeps (hother tokens)
  · intro costs salt nonce hidden tag tag' hlen hlen' haccepts haccepts'
    obtain ⟨record, hsealed⟩ := haccepts.sealed
    obtain ⟨record', hsealed'⟩ := haccepts'.sealed
    exact tag_unique hlen hlen' hsealed hsealed'

/-- A vault object that has done nothing yet finds the tokens that another one saved. -/
theorem opens_sealed_file :
    let v : Vault := ⟨⟨false, ["session.vault"]⟩, "pass", ⟨8, 1, 1⟩⟩
    let tokens : TokenSet := ⟨⟨"access", by decide⟩, none, ⟨0, 5⟩⟩
    let salt := List.replicate 16 7
    let content := Text.bytes (v.sealTokens
      (Argon2id.derive v.costs (Text.bytes "pass") salt 32) salt (List.replicate 12 9) tokens)
    v.Reachable none ∧
      (v.load ⟨⟨[(["session.vault"], .file content 384)], []⟩, none, ⟨fun _ => 0, 0⟩⟩).1 =
        .ok (some tokens) := by
  intro v tokens salt content
  have hmoment : tokens.savedAt.IsMoment := ⟨by decide, .inl (by decide)⟩
  have hread : ∀ bytes, Files.read ⟨[(["session.vault"], .file bytes 384)], []⟩
      ⟨false, ["session.vault"]⟩ = .ok bytes := fun _ => rfl
  refine ⟨.new, ((opens_what_was_sealed .new).2.1 tokens).2 ⟨content, hread content, ?_⟩⟩
  exact keeps_sealTokens (deriveKey_eq_ok_iff.2 ⟨rfl, rfl⟩) rfl rfl hmoment

end RedirectLogin.Vault
