import RedirectLogin.Proofs.Json.RoundTrip

/-!
# Documents in any layout

The indented text of a document has the same tokens as the compact one: white space before a token
is skipped. And whoever wrote a text, if it is one value and nothing else, then no part of it stops
being JSON, so a reader that skips a member it does not know never stumbles over what is in it.

Principal results: `cuts_pretty` — the tokens of the indented text; `ofText_pretty` — its outline;
`unbroken_of_complete` — the members of an object that makes up the whole text.
-/

set_option autoImplicit false

namespace RedirectLogin.Json

open Outline (Building Frame Next)
open Token (Cuts)

/-! ## Indented texts -/

namespace Token

/-- White space before a token is skipped. -/
theorem Cuts.behindSpace {blank cs rest : List Char} {ts : List Token} (h : Cuts cs ts rest)
    (hne : ts ≠ []) (hblank : ∀ c ∈ blank, isSpace c = true) : Cuts (blank ++ cs) ts rest := by
  cases h with
  | done rest => exact absurd rfl hne
  | token skip read less more =>
    refine .token ?_ read less more
    rw [skipSpace, List.dropWhile_append_of_pos hblank]
    exact skip

theorem Cuts.behindLineBreak {cs rest : List Char} {ts : List Token} (h : Cuts cs ts rest)
    (hne : ts ≠ []) (level : Nat) : Cuts (lineBreak level ++ cs) ts rest := by
  refine h.behindSpace hne fun c hc => ?_
  rcases List.mem_cons.1 hc with rfl | hspace
  · decide
  · rw [List.eq_of_mem_replicate hspace]
    decide

/-- The value of a member stands behind a space. -/
theorem Cuts.behindColon {cs rest : List Char} {ts : List Token} (h : Cuts cs ts rest)
    (hne : ts ≠ []) : Cuts (' ' :: cs) ts rest := by
  have hblank : ∀ c ∈ [' '], isSpace c = true := fun c hc => by
    rw [List.mem_singleton.1 hc]
    decide
  exact h.behindSpace hne hblank

end Token

theorem tokens_ne_nil (j : Json) : tokens j ≠ [] := by
  obtain ⟨t, ts, htokens, -⟩ := tokens_cons j
  rw [htokens]
  exact List.cons_ne_nil t ts

/-- No number goes on in the next line. -/
theorem numberEnds_lineBreak (level : Nat) (rest : List Char) :
    NumberEnds (lineBreak level ++ rest) :=
  numberEnds_cons (by decide)

mutual

/-- The indented text of a document is cut into the document's tokens, at every level. -/
theorem cuts_pretty (j : Json) (h : j.Plain) (level : Nat) {rest : List Char}
    (hend : NumberEnds rest) : Cuts (prettyChars level j ++ rest) (tokens j) rest := by
  match j with
  | .null => exact .one (by decide) rfl (by simp; omega)
  | .bool true => exact .one (by decide) rfl (by simp; omega)
  | .bool false => exact .one (by decide) rfl (by simp; omega)
  | .number (.natural n) =>
    rw [prettyChars, Number.text, Nat.toString_eq_repr, Nat.toList_repr]
    exact Token.cuts_toDigits h hend
  | .string s => exact Token.cuts_stringLiteral s rest
  | .array [] => exact .token rfl rfl (Nat.le_refl _) (.one (by decide) rfl (Nat.le_refl _))
  | .array (k :: items) =>
    have hclose : Cuts (lineBreak level ++ ']' :: rest) [.closeArray] rest :=
      Cuts.behindLineBreak (.one (by decide) rfl (Nat.le_refl _)) (List.cons_ne_nil _ _) level
    have hitems := cuts_prettyItems (k :: items) h (level + 1) (lineBreak level ++ ']' :: rest)
      (numberEnds_lineBreak level _)
    rw [prettyChars, tokens, List.cons_append, List.cons_append, List.cons_append, List.append_assoc,
      List.append_assoc]
    exact .token rfl rfl (Nat.le_refl _) (hitems.append hclose)
  | .object [] => exact .token rfl rfl (Nat.le_refl _) (.one (by decide) rfl (Nat.le_refl _))
  | .object (m :: members) =>
    have hclose : Cuts (lineBreak level ++ '\x7d' :: rest) [.closeObject] rest :=
      Cuts.behindLineBreak (.one (by decide) rfl (Nat.le_refl _)) (List.cons_ne_nil _ _) level
    have hmembers := cuts_prettyMembers (m :: members) h (level + 1)
      (lineBreak level ++ '\x7d' :: rest) (numberEnds_lineBreak level _)
    rw [prettyChars, tokens, List.cons_append, List.cons_append, List.cons_append, List.append_assoc,
      List.append_assoc]
    exact .token rfl rfl (Nat.le_refl _) (hmembers.append hclose)

theorem cuts_prettyItems (items : List Json) (h : PlainItems items) (level : Nat)
    (rest : List Char) (hend : NumberEnds rest) :
    Cuts (prettyItems level items ++ rest) (itemTokens items) rest := by
  match items with
  | [] => exact .done rest
  | [j] =>
    rw [prettyItems, itemTokens, List.append_assoc]
    exact (cuts_pretty j h.1 level hend).behindLineBreak (tokens_ne_nil j) level
  | j :: k :: more =>
    have hmore := cuts_prettyItems (k :: more) h.2 level rest hend
    have hcomma : NumberEnds (',' :: (prettyItems level (k :: more) ++ rest)) :=
      numberEnds_cons (by decide)
    have hitem := (cuts_pretty j h.1 level hcomma).behindLineBreak (tokens_ne_nil j) level
    rw [prettyItems, itemTokens, List.append_assoc, List.append_assoc, List.cons_append]
    exact hitem.append (.token rfl rfl (Nat.le_refl _) hmore)

theorem cuts_prettyMembers (members : List (String × Json)) (h : PlainMembers members)
    (level : Nat) (rest : List Char) (hend : NumberEnds rest) :
    Cuts (prettyMembers level members ++ rest) (memberTokens members) rest := by
  match members with
  | [] => exact .done rest
  | [(key, v)] =>
    have hvalue := (cuts_pretty v h.1 level hend).behindColon (tokens_ne_nil v)
    rw [prettyMembers, memberTokens, List.append_assoc, List.append_assoc, List.cons_append,
      List.cons_append]
    exact ((Token.cuts_stringLiteral key _).behindLineBreak (List.cons_ne_nil _ _) level).append
      (.token rfl rfl (Nat.le_refl _) hvalue)
  | (key, v) :: m :: more =>
    have hmore := cuts_prettyMembers (m :: more) h.2 level rest hend
    have hcomma : NumberEnds (',' :: (prettyMembers level (m :: more) ++ rest)) :=
      numberEnds_cons (by decide)
    have hvalue := (cuts_pretty v h.1 level hcomma).behindColon (tokens_ne_nil v)
    rw [prettyMembers, memberTokens]
    simp only [List.append_assoc, List.cons_append]
    exact ((Token.cuts_stringLiteral key _).behindLineBreak (List.cons_ne_nil _ _) level).append
      (.token rfl rfl (Nat.le_refl _) (hvalue.append (.token rfl rfl (Nat.le_refl _) hmore)))

end

/-- **The indented text of a document has the document's outline**, and is nothing else. -/
theorem ofText_pretty {j : Json} (h : j.Plain) : Outline.ofText j.pretty = (outline j, true) := by
  have hcuts := cuts_pretty j h 0 numberEnds_nil
  rw [List.append_nil] at hcuts
  rw [Outline.ofText, pretty, String.toList_ofList, hcuts.scan_eq, ofTokens_tokens]

/-! ## Complete texts -/

namespace Outline

theorem endsBroken_of_unbroken {items : List Outline} (h : ∀ o ∈ items, o.isBroken = false) :
    endsBroken items = false := by
  induction items with
  | nil => rfl
  | cons o items ih =>
    cases items with
    | nil => exact h o List.mem_cons_self
    | cons next items => exact ih (fun o ho => h o (List.mem_cons_of_mem _ ho))

theorem endsBrokenMember_of_unbroken {members : List (Option String × Outline)}
    (h : ∀ m ∈ members, m.2.isBroken = false) : endsBrokenMember members = false := by
  induction members with
  | nil => rfl
  | cons m members ih =>
    cases members with
    | nil => exact h m List.mem_cons_self
    | cons next members => exact ih (fun m hm => h m (List.mem_cons_of_mem _ hm))

/-- A value that the text does not stop in, nor in any of its members. -/
structure Unbroken (o : Outline) : Prop where
  whole : o.isBroken = false
  members : ∀ ms, o = .object ms → ∀ m ∈ ms, m.2.isBroken = false

theorem Unbroken.array {done : List Outline} (h : ∀ o ∈ done, o.isBroken = false) :
    Unbroken (.array done.reverse) where
  whole := endsBroken_of_unbroken fun o ho => h o (List.mem_reverse.1 ho)
  members ms heq := by cases heq

theorem Unbroken.object {done : List (Option String × Outline)}
    (h : ∀ m ∈ done, m.2.isBroken = false) : Unbroken (.object done.reverse) where
  whole := endsBrokenMember_of_unbroken fun m hm => h m (List.mem_reverse.1 hm)
  members ms heq m hm := by
    rw [← Outline.object.inj heq] at hm
    exact h m (List.mem_reverse.1 hm)

theorem unbroken_emptyArray : Unbroken (.array []) where
  whole := rfl
  members ms heq := by cases heq

theorem unbroken_emptyObject : Unbroken (.object []) where
  whole := rfl
  members ms heq m hm := by
    rw [← Outline.object.inj heq] at hm
    exact absurd hm List.not_mem_nil

/-- Nothing broken has been put into a container that is still open. -/
def Frame.Intact : Frame → Prop
  | .array done => ∀ o ∈ done, o.isBroken = false
  | .object done _ => ∀ m ∈ done, m.2.isBroken = false

theorem Frame.Intact.push {value : Outline} {frame : Frame} (h : frame.Intact)
    (hvalue : value.isBroken = false) : (frame.push value).Intact := by
  cases frame with
  | array done =>
    intro o ho
    rcases List.mem_cons.1 ho with rfl | ho
    · exact hvalue
    · exact h o ho
  | object done key =>
    intro m hm
    rcases List.mem_cons.1 hm with rfl | hm
    · exact hvalue
    · exact h m hm

/-- As long as the text is JSON, everything built from it is unbroken. -/
def Building.Intact : Building → Prop
  | .inside frames _ => ∀ frame ∈ frames, frame.Intact
  | .complete value _ => Unbroken value
  | .failed _ => True

namespace Building

variable {frames : List Frame} {value : Outline} {token : Token}

theorem intact_settle (hframes : ∀ frame ∈ frames, frame.Intact) (hvalue : Unbroken value) :
    (settle value frames).Intact := by
  cases frames with
  | nil => exact hvalue
  | cons frame frames =>
    intro f hf
    rcases List.mem_cons.1 hf with rfl | hf
    · exact (hframes frame List.mem_cons_self).push hvalue.whole
    · exact hframes f (List.mem_cons_of_mem _ hf)

theorem intact_open {frame : Frame} (hframes : ∀ frame ∈ frames, frame.Intact) (next : Next)
    (hframe : frame.Intact) : (inside (frame :: frames) next).Intact := by
  intro f hf
  rcases List.mem_cons.1 hf with rfl | hf
  · exact hframe
  · exact hframes f hf

/-- A token that is a whole value is an unbroken one. -/
theorem unbroken_ofToken? (h : ofToken? token = some value) : Unbroken value := by
  unfold ofToken? at h
  split at h <;> cases h <;> exact ⟨rfl, fun _ heq => by cases heq⟩

theorem intact_openValue (hframes : ∀ frame ∈ frames, frame.Intact) :
    (openValue frames token).Intact := by
  unfold openValue
  split
  · exact intact_open hframes _ (fun _ h => absurd h List.not_mem_nil)
  · exact intact_open hframes _ (fun _ h => absurd h List.not_mem_nil)
  · split
    · rename_i hvalue
      exact intact_settle hframes (unbroken_ofToken? hvalue)
    · trivial

theorem intact_openMember (hframes : ∀ frame ∈ frames, frame.Intact) :
    (openMember frames token).Intact := by
  unfold openMember
  split
  · rename_i done old outer key
    have hdone : (Frame.object done old).Intact := hframes _ List.mem_cons_self
    exact intact_open (fun f hf => hframes f (List.mem_cons_of_mem _ hf)) _ hdone
  · trivial

/-- A token keeps everything unbroken. -/
theorem Intact.step {b : Building} (h : b.Intact) (token : Token) : (b.step token).Intact := by
  unfold Building.step
  split
  · trivial
  · exact h
  · exact intact_openValue h
  · split
    · exact intact_settle (fun f hf => h f (List.mem_cons_of_mem _ hf)) unbroken_emptyArray
    · exact intact_openValue h
  · exact intact_openMember h
  · split
    · exact intact_settle (fun f hf => h f (List.mem_cons_of_mem _ hf)) unbroken_emptyObject
    · exact intact_openMember h
  · split
    · exact h
    · trivial
  · split
    · exact h
    · exact intact_settle (fun f hf => h f (List.mem_cons_of_mem _ hf))
        (.array (h _ List.mem_cons_self))
    · exact h
    · exact intact_settle (fun f hf => h f (List.mem_cons_of_mem _ hf))
        (.object (h _ List.mem_cons_self))
    · trivial

theorem Intact.foldl {b : Building} (h : b.Intact) (tokens : List Token) :
    (tokens.foldl Building.step b).Intact := by
  induction tokens generalizing b with
  | nil => exact h
  | cons token tokens ih => exact ih (h.step token)

end Building

/-- **No member of a complete object is broken.** -/
theorem unbroken_of_complete {text : String} {ms : List (Option String × Outline)}
    (h : ofText text = (.object ms, true)) : ∀ m ∈ ms, m.2.isBroken = false := by
  have hstart : (Building.inside [] .value).Intact := fun _ h => absurd h List.not_mem_nil
  have hintact := hstart.foldl (Token.scan text.toList)
  rw [ofText, ofTokens] at h
  cases hbuilt : (Token.scan text.toList).foldl Building.step (.inside [] .value) with
  | inside frames next => rw [hbuilt] at h; cases (Prod.mk.inj h).2
  | failed value => rw [hbuilt] at h; cases (Prod.mk.inj h).2
  | complete value overrun =>
    rw [hbuilt] at h hintact
    exact hintact.members ms (Prod.mk.inj h).1

end Outline

end RedirectLogin.Json
