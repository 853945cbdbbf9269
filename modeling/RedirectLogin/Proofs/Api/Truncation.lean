import RedirectLogin.Api.Error
import RedirectLogin.Proofs.Text.Utf8

/-!
# Quoted bodies

A message quotes a body up to 500 bytes. The place to cut is looked for byte by byte, and a text can
be cut exactly in front of its characters (`isBoundary_iff`), which have at most four bytes. So the
search goes back by three bytes at most, what stands before the place it finds is a text, and no
beginning of the body that fits is longer.

Principal results: `isBoundary_iff` — where a text can be cut; `truncation_is_maximal` — what is
quoted, and that no message shows more of a body.
-/

set_option autoImplicit false

namespace RedirectLogin

/-! ## Bytes of characters -/

namespace Text

/-- Bytes from 128 to 191 only go on with characters. -/
theorem isContinuation_ofNat {n : Nat} (h : n < 256) :
    isContinuation (UInt8.ofNat n) = true ↔ 128 ≤ n ∧ n ≤ 191 := by
  simp [isContinuation, UInt8.le_iff_toNat_le, toNat_ofNat_of_lt h]

/-- The first byte of a character begins it, and the others go on with it. -/
theorem encodeChar_bytes (c : Char) :
    ∃ first others, String.utf8EncodeChar c = first :: others ∧ isContinuation first = false ∧
      (∀ b ∈ others, isContinuation b = true) ∧ others.length ≤ 3 := by
  have hlead : ∀ {n : Nat}, n < 256 → (n < 128 ∨ 191 < n) →
      isContinuation (UInt8.ofNat n) = false := by
    intro n hbyte hn
    rw [← Bool.not_eq_true, isContinuation_ofNat hbyte]
    omega
  have hnext : ∀ n : Nat, isContinuation (UInt8.ofNat (n % 64 + 128)) = true := fun n =>
    (isContinuation_ofNat (by omega)).2 (by omega)
  have hall : ∀ b : UInt8, b ∈ [] → isContinuation b = true := fun _ h => nomatch h
  have hvalid := toNat_valid c
  rw [encodeChar_eq]
  split
  · exact ⟨_, [], rfl, hlead (by omega) (by omega), hall, by simp⟩
  split
  · exact ⟨_, _, rfl, hlead (by omega) (by omega),
      by simpa only [List.forall_mem_cons, hnext, true_and] using hall, by simp⟩
  split
  · exact ⟨_, _, rfl, hlead (by omega) (by omega),
      by simpa only [List.forall_mem_cons, hnext, true_and] using hall, by simp⟩
  · exact ⟨_, _, rfl, hlead (by omega) (by omega),
      by simpa only [List.forall_mem_cons, hnext, true_and] using hall, by simp⟩

theorem encode_length (cs : List Char) : (encode cs).length = (String.ofList cs).utf8ByteSize := by
  simp [String.utf8ByteSize, encode, List.utf8Encode]

theorem bytes_length (s : String) : (bytes s).length = s.utf8ByteSize := by
  rw [bytes, encode_length, String.ofList_toList]

theorem encode_length_pos {cs : List Char} (h : cs ≠ []) : 0 < (encode cs).length := by
  cases cs with
  | nil => exact absurd rfl h
  | cons c cs =>
    obtain ⟨first, others, hbytes, -⟩ := encodeChar_bytes c
    rw [encode_cons, hbytes, List.cons_append, List.length_cons]
    omega

/-- The bytes of a beginning stand in front. -/
theorem take_encode {front cs : List Char} (h : front <+: cs) :
    (encode cs).take (encode front).length = encode front := by
  obtain ⟨rest, rfl⟩ := h
  rw [encode_append, List.take_left]

/-- Of two beginnings of a text, the one with fewer bytes is a beginning of the other. -/
theorem prefix_of_encode_length_le {front front' cs : List Char} (h : front <+: cs)
    (h' : front' <+: cs) (hle : (encode front').length ≤ (encode front).length) :
    front' <+: front := by
  rcases List.prefix_or_prefix_of_prefix h h' with ⟨rest, rfl⟩ | hprefix
  · cases rest with
    | nil => simp
    | cons c rest =>
      have hpos := encode_length_pos (List.cons_ne_nil c rest)
      rw [encode_append, List.length_append] at hle
      omega
  · exact hprefix

/-- A text whose bytes another one begins with is a beginning of it. -/
theorem prefix_of_encode_prefix {front cs : List Char} (h : encode front <+: encode cs) :
    front <+: cs := by
  induction front generalizing cs with
  | nil => exact List.nil_prefix
  | cons c front ih =>
    obtain ⟨rest, hrest⟩ := h
    rw [encode_cons, List.append_assoc] at hrest
    obtain ⟨b, bs, hbytes, hsplit⟩ := split_encodeChar c (encode front ++ rest)
    rw [hbytes, List.cons_append] at hrest
    cases cs with
    | nil => cases hrest
    | cons d cs =>
      obtain ⟨b', bs', hbytes', hsplit'⟩ := split_encodeChar d (encode cs)
      rw [encode_cons, hbytes', List.cons_append] at hrest
      -- both texts begin with the character that is taken off the same bytes
      obtain ⟨rfl, hbehind⟩ := List.cons.inj hrest
      rw [hbehind, hsplit'] at hsplit
      obtain ⟨hchar, hothers⟩ := Prod.mk.inj hsplit
      obtain rfl := Option.some.inj hchar
      exact List.cons_prefix_cons.2 ⟨rfl, ih ⟨rest, hothers.symm⟩⟩

theorem bytes_injective {s t : String} (h : bytes s = bytes t) : s = t := by
  have htext := congrArg decode? h
  rw [bytes, bytes, decode?_encode, decode?_encode] at htext
  exact String.toList_inj.1 (Option.some.inj htext)

end Text

/-! ## Where a text can be cut -/

theorem isBoundary_length (bs : List UInt8) : isBoundary bs bs.length = true := by
  simp [isBoundary]

/-- Within a character a text cannot be cut. -/
theorem not_isBoundary_within {c : Char} {rest : List UInt8} {n : Nat} (hpos : 0 < n)
    (hlt : n < (String.utf8EncodeChar c).length) :
    isBoundary (String.utf8EncodeChar c ++ rest) n = false := by
  obtain ⟨first, others, hbytes, -, hothers, -⟩ := Text.encodeChar_bytes c
  obtain ⟨m, rfl⟩ : ∃ m, n = m + 1 := ⟨n - 1, by omega⟩
  rw [hbytes, List.length_cons] at hlt
  have hm : m < others.length := by omega
  have hnext := hothers _ (List.getElem_mem hm)
  simp only [isBoundary, hbytes, List.cons_append, List.length_cons, List.length_append,
    List.getElem?_cons_succ, List.getElem?_append_left hm, List.getElem?_eq_getElem hm,
    Option.any_some, hnext]
  simp
  omega

/-- Behind a character it can be cut where the rest can. -/
theorem isBoundary_behind (c : Char) (cs : List Char) (n : Nat) :
    isBoundary (String.utf8EncodeChar c ++ Text.encode cs) ((String.utf8EncodeChar c).length + n) =
      isBoundary (Text.encode cs) n := by
  obtain ⟨first, others, hbytes, -⟩ := Text.encodeChar_bytes c
  cases n with
  | succ n =>
    simp only [isBoundary, List.length_append, List.getElem?_append_right (Nat.le_add_right _ _),
      Nat.add_sub_cancel_left]
    simp
  | zero =>
    -- what follows begins with a character, unless it is the end
    rw [Nat.add_zero]
    cases cs with
    | nil =>
      rw [Text.encode_nil, List.append_nil, isBoundary_length]
      rfl
    | cons d ds =>
      obtain ⟨lead, tail, hlead, hbegins, -⟩ := Text.encodeChar_bytes d
      rw [Text.encode_cons, hlead]
      simp [isBoundary, hbegins]

/-- **A text can be cut exactly behind its beginnings**: in front of a character or at the end. -/
theorem isBoundary_iff {cs : List Char} {n : Nat} :
    isBoundary (Text.encode cs) n = true ↔
      ∃ front, front <+: cs ∧ (Text.encode front).length = n := by
  induction cs generalizing n with
  | nil =>
    rw [Text.encode_nil, isBoundary]
    simp [Text.encode_nil, List.prefix_nil, @eq_comm _ 0 n]
  | cons c cs ih =>
    rw [Text.encode_cons]
    rcases Nat.eq_zero_or_pos n with rfl | hpos
    · exact ⟨fun _ => ⟨[], List.nil_prefix, rfl⟩, fun _ => rfl⟩
    constructor
    · intro h
      by_cases hwithin : n < (String.utf8EncodeChar c).length
      · rw [not_isBoundary_within hpos hwithin] at h
        cases h
      obtain ⟨m, rfl⟩ := Nat.exists_eq_add_of_le (Nat.le_of_not_lt hwithin)
      rw [isBoundary_behind] at h
      obtain ⟨front, hprefix, rfl⟩ := ih.1 h
      exact ⟨c :: front, List.cons_prefix_cons.2 ⟨rfl, hprefix⟩, by
        rw [Text.encode_cons, List.length_append]⟩
    · rintro ⟨front, hprefix, rfl⟩
      cases front with
      | nil => exact absurd hpos (Nat.lt_irrefl 0)
      | cons d front =>
        obtain ⟨rfl, hfront⟩ := List.cons_prefix_cons.1 hprefix
        rw [Text.encode_cons, List.length_append, isBoundary_behind]
        exact ih.2 ⟨front, hfront, rfl⟩

/-- Up to the end of a text, no more than three bytes lie between a place and the last one before it
where the text can be cut. -/
theorem exists_boundary {cs : List Char} {n : Nat} (h : n ≤ (Text.encode cs).length) :
    ∃ m, m ≤ n ∧ n ≤ m + 3 ∧ isBoundary (Text.encode cs) m = true := by
  induction cs generalizing n with
  | nil => exact ⟨0, Nat.zero_le n, Nat.le_trans h (Nat.zero_le _), rfl⟩
  | cons c cs ih =>
    obtain ⟨first, others, hbytes, -, -, hlength⟩ := Text.encodeChar_bytes c
    have hshort : (String.utf8EncodeChar c).length ≤ 4 := by
      rw [hbytes, List.length_cons]
      omega
    rw [Text.encode_cons] at h ⊢
    by_cases hwithin : n < (String.utf8EncodeChar c).length
    · exact ⟨0, Nat.zero_le n, by omega, rfl⟩
    obtain ⟨k, rfl⟩ := Nat.exists_eq_add_of_le (Nat.le_of_not_lt hwithin)
    rw [List.length_append] at h
    obtain ⟨m, hle, hnear, hcut⟩ := ih (n := k) (by omega)
    exact ⟨_, Nat.add_le_add_left hle _, by omega, (isBoundary_behind c cs m).trans hcut⟩

/-! ## The search -/

/-- The search does not pass a place where the text can be cut. -/
theorem le_cutFrom {bs : List UInt8} {m n : Nat} (hle : m ≤ n) (h : isBoundary bs m = true) :
    m ≤ cutFrom bs n := by
  induction n with
  | zero => exact hle
  | succ n ih =>
    unfold cutFrom
    split
    · exact hle
    · rename_i hnot
      rcases Nat.lt_or_eq_of_le hle with hlt | rfl
      · exact ih (Nat.le_of_lt_succ hlt)
      · exact absurd h hnot

/-- **The search ends after three steps back** or fewer, at the longest beginning of the text that
fits. -/
theorem cutFrom_spec {cs : List Char} {n : Nat} (h : n ≤ (Text.encode cs).length) :
    n ≤ cutFrom (Text.encode cs) n + 3 ∧
      ∃ kept, kept <+: cs ∧ (Text.encode kept).length = cutFrom (Text.encode cs) n ∧
        ∀ front, front <+: cs → (Text.encode front).length ≤ n → front <+: kept := by
  obtain ⟨m, hle, hnear, hcut⟩ := exists_boundary h
  have hm := le_cutFrom hle hcut
  obtain ⟨kept, hkept, hlength⟩ := isBoundary_iff.1 (isBoundary_cutFrom (Text.encode cs) n)
  refine ⟨by omega, kept, hkept, hlength, fun front hfront hfits => ?_⟩
  refine Text.prefix_of_encode_length_le hkept hfront ?_
  rw [hlength]
  exact le_cutFrom hfits (isBoundary_iff.2 ⟨front, hfront, rfl⟩)

/-! ## What a message shows -/

/-- The note behind a body of so many bytes that is cut. -/
def truncationNote (size : Nat) : String :=
  "... (truncated, " ++ toString size ++ " total bytes)"

theorem truncateBody_short {body : String} (h : body.utf8ByteSize ≤ 500) :
    truncateBody body = body :=
  if_pos h

/-- A long body is cut where the search ends, which splits no character. -/
theorem truncateBody_long {body : String} (h : 500 < body.utf8ByteSize) :
    497 ≤ cutFrom (Text.bytes body) 500 ∧
      ∃ kept, textBefore? body (cutFrom (Text.bytes body) 500) = some (String.ofList kept) ∧
        (kept <+: body.toList ∧ (Text.encode kept).length ≤ 500 ∧
          ∀ front, front <+: body.toList → (Text.encode front).length ≤ 500 → front <+: kept) ∧
        truncateBody body = String.ofList kept ++ truncationNote body.utf8ByteSize := by
  have hlong : 500 ≤ (Text.bytes body).length := by
    rw [Text.bytes_length]
    omega
  obtain ⟨hnear, kept, hkept, hlength, hlongest⟩ := cutFrom_spec hlong
  rw [← Text.bytes] at hnear hlength
  have hfits := cutFrom_le (Text.bytes body) 500
  have htext : textBefore? body (cutFrom (Text.bytes body) 500) = some (String.ofList kept) := by
    rw [textBefore?, ← hlength, Text.bytes, Text.take_encode hkept, Text.decode?_encode]
    rfl
  refine ⟨by omega, kept, htext, ⟨hkept, by rw [hlength]; exact hfits, hlongest⟩, ?_⟩
  rw [truncateBody, if_neg (by rw [maxErrorBody]; omega), maxErrorBody, htext, Option.getD_some,
    String.append_assoc, String.append_assoc]
  rfl

/-- A short body is its own first 500 bytes. -/
theorem take_bytes_short {body : String} (h : body.utf8ByteSize ≤ 500) :
    (Text.bytes body).take 500 = Text.bytes body :=
  List.take_of_length_le (Text.bytes_length body ▸ h)

/-- The bytes of a beginning that fits are among the first 500. -/
theorem encode_prefix_take {front : List Char} {body : String} (h : front <+: body.toList)
    (hfits : (Text.encode front).length ≤ 500) :
    Text.encode front <+: (Text.bytes body).take 500 := by
  rw [Text.bytes, ← Text.take_encode h]
  exact List.take_prefix_take_left hfits

/-- What is quoted stands in the first 500 bytes. -/
theorem truncateBody_shows (body : String) :
    ∃ quoted note, truncateBody body = quoted ++ note ∧
      Text.bytes quoted <+: (Text.bytes body).take 500 ∧
      (note = "" ∨ note = truncationNote body.utf8ByteSize) := by
  by_cases hshort : body.utf8ByteSize ≤ 500
  · refine ⟨body, "", ?_, ?_, .inl rfl⟩
    · rw [truncateBody_short hshort, String.append_empty]
    · exact ⟨[], by rw [take_bytes_short hshort, List.append_nil]⟩
  · obtain ⟨-, kept, -, ⟨hkept, hfits, -⟩, hquoted⟩ := truncateBody_long (Nat.lt_of_not_le hshort)
    refine ⟨_, _, hquoted, ?_, .inr rfl⟩
    have hshown := encode_prefix_take hkept hfits
    rwa [← String.toList_ofList (l := kept)] at hshown

/-- What fits of one body fits of every other one with the same first 500 bytes. -/
theorem prefix_of_same_bytes {front : List Char} {body other : String}
    (hbytes : (Text.bytes other).take 500 = (Text.bytes body).take 500)
    (h : front <+: other.toList) (hfits : (Text.encode front).length ≤ 500) :
    front <+: body.toList := by
  have hshown := encode_prefix_take h hfits
  rw [hbytes] at hshown
  exact Text.prefix_of_encode_prefix (hshown.trans (List.take_prefix 500 _))

/-- A body's length and its first 500 bytes decide how it is quoted. -/
theorem truncateBody_congr {body other : String} (hsize : other.utf8ByteSize = body.utf8ByteSize)
    (hbytes : (Text.bytes other).take 500 = (Text.bytes body).take 500) :
    truncateBody other = truncateBody body := by
  by_cases hshort : body.utf8ByteSize ≤ 500
  · rw [take_bytes_short hshort, take_bytes_short (hsize ▸ hshort)] at hbytes
    rw [Text.bytes_injective hbytes]
  have hlong : 500 < body.utf8ByteSize := Nat.lt_of_not_le hshort
  obtain ⟨-, kept, -, ⟨hkept, hfits, hlongest⟩, hquoted⟩ := truncateBody_long hlong
  obtain ⟨-, kept', -, ⟨hkept', hfits', hlongest'⟩, hquoted'⟩ := truncateBody_long (hsize ▸ hlong)
  -- each of the two quotes is a beginning of both bodies, so neither is longer
  have hle := hlongest _ (prefix_of_same_bytes hbytes hkept' hfits') hfits'
  have hge := hlongest' _ (prefix_of_same_bytes hbytes.symm hkept hfits) hfits
  rw [hquoted, hquoted', hle.eq_of_length (Nat.le_antisymm hle.length_le hge.length_le), hsize]

/-- A message says the same of every body, or quotes it behind what it says of every body. -/
theorem message_ofStatus (status : Nat) :
    (∃ text, ∀ body, (ApiError.ofStatus status body).message = text) ∨
      ∃ front, ∀ body, (ApiError.ofStatus status body).message = front ++ truncateBody body := by
  unfold ApiError.ofStatus
  split
  · exact .inl ⟨_, fun _ => rfl⟩
  split
  · exact .inr ⟨_, fun _ => rfl⟩
  split
  · exact .inr ⟨_, fun _ => rfl⟩
  split
  · exact .inl ⟨_, fun _ => rfl⟩
  split
  · exact .inr ⟨_, fun _ => rfl⟩
  · exact .inr ⟨_, fun body => String.append_assoc.symm⟩

/-- **Bodies are cut safely and as late as possible.** One of at most 500 bytes is quoted whole. In
a longer one the search for the place to cut ends at byte 497 or behind it, what stands before that
place is a text, and it is the longest beginning of the body that fits into 500 bytes; the note
behind it tells the body's length. No message shows more of a body than is in its first 500 bytes,
and these and its length decide the whole error. -/
theorem truncation_is_maximal :
    (∀ body : String, body.utf8ByteSize ≤ 500 → truncateBody body = body) ∧
    (∀ body : String, 500 < body.utf8ByteSize →
      (497 ≤ cutFrom (Text.bytes body) 500 ∧ cutFrom (Text.bytes body) 500 ≤ 500) ∧
      ∃ kept, textBefore? body (cutFrom (Text.bytes body) 500) = some (String.ofList kept) ∧
        (kept <+: body.toList ∧ (Text.encode kept).length ≤ 500 ∧
          ∀ front, front <+: body.toList → (Text.encode front).length ≤ 500 → front <+: kept) ∧
        truncateBody body = String.ofList kept ++
          ("... (truncated, " ++ toString body.utf8ByteSize ++ " total bytes)")) ∧
    (∀ status, ∃ front, ∀ body, ∃ quoted note,
      (ApiError.ofStatus status body).message = front ++ (quoted ++ note) ∧
        Text.bytes quoted <+: (Text.bytes body).take 500 ∧
        (note = "" ∨
          note = "... (truncated, " ++ toString body.utf8ByteSize ++ " total bytes)")) ∧
    ∀ status (body other : String), other.utf8ByteSize = body.utf8ByteSize →
      (Text.bytes other).take 500 = (Text.bytes body).take 500 →
      ApiError.ofStatus status other = ApiError.ofStatus status body := by
  refine ⟨fun body => truncateBody_short, fun body hlong => ?_, fun status => ?_,
    fun status body other hsize hbytes => ?_⟩
  · obtain ⟨hnear, hquoted⟩ := truncateBody_long hlong
    exact ⟨⟨hnear, cutFrom_le _ _⟩, hquoted⟩
  · rcases message_ofStatus status with ⟨text, hmessage⟩ | ⟨front, hmessage⟩
    · refine ⟨text, fun body => ⟨"", "", ?_, List.nil_prefix, .inl rfl⟩⟩
      rw [hmessage, String.append_empty, String.append_empty]
    · refine ⟨front, fun body => ?_⟩
      obtain ⟨quoted, note, hquoted, hshown, hnote⟩ := truncateBody_shows body
      exact ⟨quoted, note, by rw [hmessage, hquoted], hshown, hnote⟩
  · unfold ApiError.ofStatus
    rw [truncateBody_congr hsize hbytes]

/-- A body of 751 bytes in which byte 500 is in the middle of a character is cut before it. -/
theorem cut_before_split_character :
    let body := String.ofList ('a' :: List.replicate 250 '€')
    500 < body.utf8ByteSize ∧ cutFrom (Text.bytes body) 500 = 499 ∧
      truncateBody body = String.ofList ('a' :: List.replicate 166 '€') ++
        ("... (truncated, " ++ toString body.utf8ByteSize ++ " total bytes)") := by
  intro body
  have hbytes : Text.bytes body = Text.encode ('a' :: List.replicate 250 '€') :=
    congrArg Text.encode String.toList_ofList
  have hlong : 500 < body.utf8ByteSize := by
    rw [← Text.bytes_length, hbytes]
    decide +kernel
  have hcut : cutFrom (Text.bytes body) 500 = 499 := by
    rw [hbytes]
    decide +kernel
  have htake : (Text.bytes body).take 499 = Text.encode ('a' :: List.replicate 166 '€') := by
    rw [hbytes]
    decide +kernel
  obtain ⟨-, kept, htext, -, hquoted⟩ := truncation_is_maximal.2.1 body hlong
  rw [textBefore?, hcut, htake, Text.decode?_encode] at htext
  exact ⟨hlong, hcut, by rw [hquoted, ← Option.some.inj htext]⟩

end RedirectLogin
