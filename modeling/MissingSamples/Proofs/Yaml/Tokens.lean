/-
# What tokens can be spoilt by

The tokens of a document are found in one pass over its text. Whatever breaks the rules of the
format on the way makes the document malformed. There is one other thing that can go wrong: an
escape by number may ask for a character that does not exist.

Every step of the pass starts at a place in the text and ends at a place in the text, so an escape
that goes wrong somewhere is written in the text.

* `Ends` says of a step what it makes and what it can fail of, and `Ends.bind` puts steps together;
* `Quoted.scans_escape` is about the only step with a problem of its own;
* `ends_tokens` says what the tokens of a text can be spoilt by.
-/
import Mathlib.Tactic.Lemma
import MissingSamples.Yaml.Layout

namespace MissingSamples.Yaml

/-! ## Steps that may fail -/

section Steps

variable {ε α β : Type}

/-- The step makes something good, or fails for an allowed reason. -/
inductive Ends (allowed : ε → Prop) (good : α → Prop) : Except ε α → Prop
  /-- It makes something good. -/
  | ok {a : α} (h : good a) : Ends allowed good (.ok a)
  /-- It fails for an allowed reason. -/
  | error {p : ε} (h : allowed p) : Ends allowed good (.error p)

namespace Ends

variable {allowed : ε → Prop} {good : α → Prop} {good' : β → Prop} {e e' : Except ε α}

lemma allowed_of_eq_error {p : ε} (h : Ends allowed good e) (he : e = .error p) : allowed p := by
  subst he
  cases h with
  | error h => exact h

lemma good_of_eq_ok {a : α} (h : Ends allowed good e) (he : e = .ok a) : good a := by
  subst he
  cases h with
  | ok h => exact h

lemma mono {allowed' : ε → Prop} {good' : α → Prop} (h : Ends allowed good e)
    (hallowed : ∀ p, allowed p → allowed' p) (hgood : ∀ a, good a → good' a) :
    Ends allowed' good' e := by
  cases h with
  | ok h => exact .ok (hgood _ h)
  | error h => exact .error (hallowed _ h)

lemma bind {next : α → Except ε β} (h : Ends allowed good e)
    (hnext : ∀ a, good a → Ends allowed good' (next a)) : Ends allowed good' (e >>= next) := by
  cases h with
  | ok h => exact hnext _ h
  | error h => exact .error h

lemma map {f : α → β} (h : Ends allowed good e) (hf : ∀ a, good a → good' (f a)) :
    Ends allowed good' (f <$> e) := by
  cases h with
  | ok h => exact .ok (hf _ h)
  | error h => exact .error h

lemma ite {c : Prop} [Decidable c] (h : c → Ends allowed good e)
    (h' : ¬c → Ends allowed good e') : Ends allowed good (if c then e else e') := by
  split
  · next hc => exact h hc
  · next hc => exact h' hc

lemma mapM {f : β → Except ε α} {xs : List β} (h : ∀ x, Ends allowed (fun _ => True) (f x)) :
    Ends allowed (fun _ => True) (xs.mapM f) := by
  induction xs with
  | nil => exact .ok trivial
  | cons x xs ih =>
    rw [List.mapM_cons]
    exact (h x).bind fun y _ => ih.bind fun ys _ => .ok trivial

end Ends

end Steps

/-! ## Places in a text -/

variable {text : List Char} {c : Cursor}

namespace Cursor

/-- What follows the place ends the text. -/
def Within (text : List Char) (c : Cursor) : Prop := c.rest <:+ text

lemma within_next (h : c.Within text) : c.next.Within text := by
  rw [Within, rest_next]
  exact (List.tail_suffix _).trans h

lemma within_skip (h : c.Within text) (n : Nat) : (c.skip n).Within text := by
  rw [Within, rest_skip]
  exact (List.drop_suffix n _).trans h

lemma within_span (h : c.Within text) (p : Char → Bool) : (c.span p).2.Within text := by
  rw [Within, rest_span]
  exact (List.dropWhile_suffix p).trans h

lemma within_skipComment (h : c.Within text) : c.skipComment.Within text := by
  unfold skipComment
  split
  · exact within_span h _
  · exact h

lemma within_lineBreak? {b : Char} {after : Cursor} (h : c.Within text)
    (hbreak : c.lineBreak? = some (b, after)) : after.Within text := by
  unfold lineBreak? at hbreak
  split at hbreak
  · split at hbreak
    · cases hbreak
      exact within_next h
    · cases hbreak
  · cases hbreak

end Cursor

open Cursor

/-- What can spoil the tokens of a text. -/
inductive Spoils (text : List Char) : Problem → Prop
  /-- The text breaks the rules of the format. -/
  | malformed : Spoils text .malformed
  /-- In the text stands an escape by number, of which no character has the number. -/
  | escape {before digits after : List Char} {mark : Char} {number : Nat} {p : Problem}
    (written : text = before ++ '\\' :: mark :: (digits ++ after))
    (isMark : Quoted.numberedEscapes.lookup mark = some digits.length)
    (spells : Quoted.hexNumber? digits = some number)
    (refuses : Quoted.character number = .error p) : Spoils text p

/-- The step makes something and ends at a place in the text, or is spoilt. -/
abbrev Scans {α : Type} (text : List Char) (e : Except Problem (α × Cursor)) : Prop :=
  Ends (Spoils text) (fun x => x.2.Within text) e

lemma Cursor.ends_finishLine (h : c.Within text) :
    Ends (Spoils text) (Within text) c.finishLine := by
  have hend : c.skipSpaces.skipComment.Within text := within_skipComment (within_span h _)
  refine .ite (fun _ => .ok ?_) fun _ => .error .malformed
  split
  · next b after hbreak => exact within_lineBreak? hend hbreak
  · exact hend

/-! ## Scalars -/

namespace Plain

lemma within_emptyLines (fuel : Nat) (h : c.Within text) : (emptyLines fuel c).2.Within text := by
  induction fuel generalizing c with
  | zero => exact h
  | succ fuel ih =>
    have hspaces : c.skipSpaces.Within text := within_span h _
    unfold emptyLines
    dsimp only
    split
    · exact hspaces
    · next b after hbreak =>
      have hafter := within_lineBreak? hspaces hbreak
      split
      · exact hafter
      · exact ih hafter

lemma within_gap (h : c.Within text) : (gap c).2.1.Within text := by
  have hspaces := within_span h (· == ' ')
  unfold gap
  dsimp only
  split
  · exact hspaces
  · next b after hbreak =>
    have hafter := within_lineBreak? hspaces hbreak
    split
    · exact hafter
    · exact within_emptyLines _ hafter

lemma within_more {inFlow crossed : Bool} {indent : Nat} (fuel : Nat) {between : List Char}
    (h : c.Within text) : (more inFlow indent fuel between c crossed).2.1.Within text := by
  induction fuel generalizing between c crossed with
  | zero => exact h
  | succ fuel ih =>
    have hgap := within_gap (within_skip h (run inFlow c.rest).length)
    unfold more
    dsimp only
    split
    · exact h
    · split
      · exact hgap
      · exact ih hgap

lemma within_scan {inFlow : Bool} {indent : Nat} (h : c.Within text) :
    (scan inFlow indent c).2.1.Within text := within_more _ h

end Plain

namespace Quoted

lemma scans_emptyLines (fuel : Nat) (h : c.Within text) : Scans text (emptyLines fuel c) := by
  induction fuel generalizing c with
  | zero => exact .error .malformed
  | succ fuel ih =>
    have hblanks : c.skipBlanks.Within text := within_span h _
    refine .ite (fun _ => .error .malformed) fun _ => ?_
    dsimp only
    split
    · exact .ok hblanks
    · next b after hbreak =>
      exact (ih (within_lineBreak? hblanks hbreak)).bind fun x hx => .ok hx

lemma scans_gap (h : c.Within text) : Scans text (gap c) := by
  have hspaces := within_span h fun x => x == ' ' || x == '\t'
  unfold gap
  dsimp only
  split
  · exact .ok hspaces
  · next b after hbreak =>
    exact (scans_emptyLines _ (within_lineBreak? hspaces hbreak)).bind fun x hx => .ok hx

/-- An escape is spoilt by the number of no character, or malformed. -/
lemma scans_escape (h : '\\' :: c.rest <:+ text) : Scans text (escape c) := by
  have hwithin : c.Within text := (List.suffix_cons _ _).trans h
  unfold escape
  cases hx : c.peek with
  | none => exact .error .malformed
  | some mark =>
    dsimp only
    split
    · exact .ok (within_next hwithin)
    · next width _ hwidth =>
      cases hnumber : hexNumber? (c.next.rest.take width) with
      | none => exact .error .malformed
      | some number =>
        dsimp only
        refine .ite (fun hlength => ?_) fun _ => .error .malformed
        cases hcharacter : character number with
        | ok made => exact .ok (within_skip (within_next hwithin) width)
        | error p =>
          -- the digits follow the mark, and the mark follows the backslash
          obtain ⟨before, hbefore⟩ := h
          obtain ⟨rest, hrest⟩ := List.head?_eq_some_iff.1 hx
          have hdigits : rest = c.next.rest.take width ++ rest.drop width := by
            rw [rest_next, hrest, List.tail_cons, List.take_append_drop]
          have hwritten : text = before ++ '\\' :: mark ::
              (c.next.rest.take width ++ rest.drop width) := by
            rw [← hdigits, ← hrest, hbefore]
          exact .error (.escape hwritten (hlength.symm ▸ hwidth) hnumber hcharacter)
    · split
      · next hbreak => exact scans_emptyLines _ (within_lineBreak? hwithin hbreak)
      · exact .error .malformed

lemma ends_part {quote : Char} (h : c.Within text) :
    Ends (Spoils text) (fun made => ∀ x ∈ made, x.2.Within text) (part quote c) := by
  have hsome {e : Except Problem (List Char × Cursor)} (he : Scans text e) :
      Ends (Spoils text) (fun made => ∀ x ∈ made, x.2.Within text) (some <$> e) :=
    he.map fun made hmade x hx => Option.some.inj hx ▸ hmade
  unfold part
  split
  · exact .error .malformed
  · next x hpeek =>
    refine .ite (fun _ => ?_) fun _ => .ite (fun hx => ?_) fun _ => .ite (fun _ => ?_) fun _ => ?_
    · refine .ite (fun _ => .ok ?_) fun _ => .ok fun x hx => nomatch hx
      rintro x ⟨⟩
      exact within_skip h 2
    · refine hsome (scans_escape ?_)
      obtain ⟨rest, hrest⟩ := List.head?_eq_some_iff.1 hpeek
      rw [rest_next, ← hx.1, hrest, List.tail_cons, ← hrest]
      exact h
    · exact hsome (scans_gap h)
    · refine .ok ?_
      rintro x ⟨⟩
      exact within_next h

lemma scans_more {quote : Char} (fuel : Nat) (h : c.Within text) :
    Scans text (more quote fuel c) := by
  induction fuel generalizing c with
  | zero => exact .error .malformed
  | succ fuel ih =>
    refine (ends_part h).bind fun made hmade => ?_
    cases made with
    | none => exact .ok (within_next h)
    | some made => exact (ih (hmade made rfl)).bind fun x hx => .ok hx

lemma scans_scan {quote : Char} (h : c.Within text) : Scans text (scan quote c) :=
  scans_more _ (within_next h)

end Quoted

namespace Block

lemma ends_header (h : c.Within text) :
    Ends (Spoils text) (fun made => made.2.2.Within text) (header c) := by
  refine .ite (fun _ => .ok ?_) fun _ => .error .malformed
  dsimp only
  split
  · split
    · exact within_skip h 2
    · exact within_next h
  · split
    · split
      · exact within_skip h 2
      · exact within_next h
    · exact h

lemma within_leadingBreaks (fuel : Nat) {deepest : Nat} (h : c.Within text) :
    (leadingBreaks fuel c deepest).2.2.Within text := by
  induction fuel generalizing c deepest with
  | zero => exact h
  | succ fuel ih =>
    have hspaces : c.skipSpaces.Within text := within_span h _
    unfold leadingBreaks
    dsimp only
    split
    · exact hspaces
    · next b after hbreak => exact ih (within_lineBreak? hspaces hbreak)

lemma within_breaks (indent fuel : Nat) (h : c.Within text) :
    (breaks indent fuel c).2.Within text := by
  induction fuel generalizing c with
  | zero => exact h
  | succ fuel ih =>
    have hindent : (skipIndent indent c).Within text := within_skip h _
    unfold breaks
    dsimp only
    split
    · exact hindent
    · next b after hbreak => exact ih (within_lineBreak? hindent hbreak)

lemma within_lines {isFolded : Bool} {indent : Nat} {ending : Ending} (fuel : Nat)
    {empty : List Char} (h : c.Within text) :
    (lines isFolded indent ending fuel empty c).2.Within text := by
  induction fuel generalizing empty c with
  | zero => exact h
  | succ fuel ih =>
    have hline := within_span h fun x => !isBreak x
    -- what follows the line is the same place after a break and at the end of the text
    have hfollows {start : Cursor} (hstart : start.Within text) :=
      within_breaks indent start.rest.length hstart
    unfold lines
    dsimp only
    split
    · next b after hbreak =>
      have hafter := hfollows (within_lineBreak? hline hbreak)
      split
      · exact ih hafter
      · exact hafter
    · split
      · exact ih (hfollows hline)
      · exact hfollows hline

lemma scans_scan {isFolded : Bool} {least : Nat} (h : c.Within text) :
    Scans text (scan isFolded least c) := by
  refine (ends_header (within_next h)).bind fun x hx => ?_
  obtain ⟨ending, increment, c⟩ := x
  refine (ends_finishLine hx).bind fun c hc => ?_
  have hlines {indent : Nat} {empty : List Char} {c : Cursor} (hc : c.Within text) :
      Scans text (if c.column = indent ∧ c.peek.isSome then
        pure (lines isFolded indent ending c.rest.length empty c)
      else pure (if ending = .keep then empty else [], c)) :=
    .ite (fun _ => .ok (within_lines _ hc)) fun _ => .ok hc
  cases increment with
  | some n => exact hlines (within_breaks _ _ hc)
  | none => exact hlines (within_leadingBreaks _ hc)

end Block

/-! ## Names, tags and directives -/

lemma scans_name (h : c.Within text) : Scans text (scanName c) :=
  .ite (fun _ => .error .malformed) fun _ => .ok (within_span h _)

lemma scans_anchor (h : c.Within text) : Scans text (scanAnchor c) :=
  (scans_name (within_next h)).bind fun _ hx =>
    .ite (fun _ => .ok hx) fun _ => .error .malformed

lemma scans_escapes (fuel : Nat) (h : c.Within text) : Scans text (scanEscapes fuel c) := by
  induction fuel generalizing c with
  | zero => exact .ok h
  | succ fuel ih =>
    refine .ite (fun _ => ?_) fun _ => .ok h
    split
    · exact (ih (within_skip h 3)).bind fun x hx => .ok hx
    · exact .error .malformed

lemma scans_tagChars (fuel : Nat) (h : c.Within text) : Scans text (scanTagChars fuel c) := by
  induction fuel generalizing c with
  | zero => exact .ok h
  | succ fuel ih =>
    unfold scanTagChars
    split
    · refine (scans_escapes _ h).bind fun x hx => ?_
      obtain ⟨bytes, c⟩ := x
      dsimp only
      split
      · exact .error .malformed
      · exact (ih hx).bind fun x hx => .ok hx
    · exact .ite (fun _ => (ih (within_next h)).bind fun x hx => .ok hx) fun _ => .ok h
    · exact .ok h

lemma scans_tagText (h : c.Within text) : Scans text (scanTagText c) :=
  .ite (fun _ => (scans_tagChars _ h).bind fun _ hx => .ok hx) fun _ => .error .malformed

lemma scans_handle (h : c.Within text) : Scans text (scanHandle c) := by
  refine .ite (fun _ => .ite (fun _ => .ok (within_next h)) fun _ => ?_) fun _ => .error .malformed
  exact .ite (fun _ => .ok (within_next (within_span (within_next h) _))) fun _ =>
    .error .malformed

lemma scans_tag (h : c.Within text) : Scans text (scanTag c) := by
  -- whatever the tag is, a name ends after it
  have hend (tag : WrittenTag) {c : Cursor} (hc : c.Within text) :
      Scans text (if endsName c.peek then pure (tag, c) else throw .malformed) :=
    .ite (fun _ => .ok hc) fun _ => .error .malformed
  have htext (handle : String) {c : Cursor} (hc : c.Within text) :=
    (scans_tagText hc).bind fun x hx => hend ⟨some handle, x.1⟩ hx
  refine .ite (fun _ => ?_) fun _ => .ite (fun _ => hend _ (within_next h)) fun _ => ?_
  · refine (scans_tagText (within_skip h 2)).bind fun x hx => ?_
    exact .ite (fun _ => hend ⟨none, x.1⟩ (within_next hx)) fun _ => .error .malformed
  · exact .ite (fun _ => (scans_handle h).bind fun x hx => htext x.1 hx) fun _ =>
      htext "!" (within_next h)

lemma scans_number (h : c.Within text) : Scans text (scanNumber c) :=
  .ite (fun _ => .error .malformed) fun _ => .ok (within_span h _)

lemma scans_version (h : c.Within text) : Scans text (scanVersion c) := by
  refine (scans_number (within_span h _)).bind fun x hx => ?_
  refine .ite (fun _ => ?_) fun _ => .error .malformed
  exact (scans_number (within_next hx)).bind fun y hy =>
    .ite (fun _ => .ok hy) fun _ => .error .malformed

lemma scans_declaration (h : c.Within text) : Scans text (scanDeclaration c) := by
  refine (scans_handle (within_span h _)).bind fun x hx => ?_
  refine .ite (fun _ => ?_) fun _ => .error .malformed
  exact (scans_tagText (within_span hx _)).bind fun y hy =>
    .ite (fun _ => .ok hy) fun _ => .error .malformed

lemma scans_directive (h : c.Within text) : Scans text (scanDirective c) := by
  have hfinish {x : Directive × Cursor} (hx : x.2.Within text) :
      Scans text (do return (x.1, ← x.2.finishLine)) :=
    (ends_finishLine hx).bind fun c hc => .ok hc
  refine (scans_name (within_next h)).bind fun x hx => ?_
  refine .ite (fun _ => ?_) fun _ => .error .malformed
  dsimp only
  refine .ite (fun _ => ?_) fun _ => .ite (fun _ => ?_) fun _ => ?_
  · exact (scans_version hx).bind fun y hy => hfinish hy
  · exact (scans_declaration hx).bind fun y hy => hfinish hy
  · exact hfinish (within_span hx _)

/-! ## The layout -/

namespace Layout

variable {l : Layout}

/-- The place that the layout has reached is in the text. -/
def Within (text : List Char) (l : Layout) : Prop := l.cursor.Within text

/-- The step ends at a place in the text, or is spoilt. -/
abbrev Steps (text : List Char) (e : Except Problem Layout) : Prop :=
  Ends (Spoils text) (Within text) e

lemma ends_giveUp (k : Option Candidate) : Ends (Spoils text) (fun _ => True) (giveUp k) :=
  .ite (fun _ => .error .malformed) fun _ => .ok trivial

lemma ends_refresh (c : Cursor) (k : Option Candidate) :
    Ends (Spoils text) (fun _ => True) (refresh c k) :=
  .ite (fun _ => (ends_giveUp k).bind fun _ _ => .ok trivial) fun _ => .ok trivial

lemma steps_dropCandidate (h : l.Within text) : Steps text l.dropCandidate :=
  (ends_giveUp _).bind fun _ _ => .ok h

lemma steps_saveCandidate (h : l.Within text) : Steps text l.saveCandidate :=
  .ite (fun _ => (steps_dropCandidate h).bind fun _ hl => .ok hl) fun _ => .ok h

lemma within_unwind (column : Option Nat) (h : l.Within text) : (l.unwind column).Within text := by
  unfold unwind
  split <;> exact h

lemma within_openBlock (t : Token) (column : Nat) (h : l.Within text) :
    (l.openBlock t column).Within text := by
  unfold openBlock
  split <;> exact h

lemma within_skipToToken (fuel : Nat) (crossed : Bool) (h : c.Within text) :
    (skipToToken fuel c crossed).1.Within text := by
  induction fuel generalizing c crossed with
  | zero => exact h
  | succ fuel ih =>
    have hspaces : c.skipSpaces.skipComment.Within text := within_skipComment (within_span h _)
    unfold skipToToken
    dsimp only
    split
    · next b after hbreak => exact ih true (within_lineBreak? hspaces hbreak)
    · exact hspaces

lemma steps_settle (h : l.Within text) : Steps text l.settle := by
  have hstart : Cursor.Within text
      (if l.cursor.index = 0 ∧ l.cursor.peek = some orderMark then l.cursor.next
        else l.cursor) := by
    split
    · exact within_next h
    · exact h
  have hsettled (fuel : Nat) := within_skipToToken fuel false hstart
  unfold settle
  dsimp only
  generalize (if l.cursor.index = 0 ∧ l.cursor.peek = some orderMark then l.cursor.next
    else l.cursor) = start at hsettled ⊢
  refine (ends_refresh _ _).bind fun candidate _ => ?_
  exact (Ends.mapM fun k => ends_refresh _ k).bind fun outer _ =>
    .ok (within_unwind _ (hsettled _))

lemma steps_takeDirective (h : l.Within text) : Steps text l.takeDirective :=
  (steps_dropCandidate (within_unwind none h)).bind fun _ hl =>
    (scans_directive hl).bind fun _ hx => .ok hx

lemma steps_takeMarker (t : Token) (h : l.Within text) : Steps text (l.takeMarker t) :=
  (steps_dropCandidate (within_unwind none h)).bind fun _ hl => .ok (within_skip hl 3)

lemma steps_openFlow (t : Token) (h : l.Within text) : Steps text (l.openFlow t) :=
  (steps_saveCandidate h).bind fun _ hl => .ok (within_next hl)

lemma steps_closeFlow (t : Token) (h : l.Within text) : Steps text (l.closeFlow t) := by
  refine (steps_dropCandidate h).bind fun l hl => ?_
  cases l.outer with
  | nil => exact .error .malformed
  | cons candidate outer => exact .ok (within_next hl)

lemma steps_takeFlowEntry (h : l.Within text) : Steps text l.takeFlowEntry :=
  (steps_dropCandidate h).bind fun _ hl => .ok (within_next hl)

lemma within_openUnlessFlow (t : Token) (h : l.Within text) :
    (if l.inFlow then l else l.openBlock t l.cursor.column).Within text := by
  split
  · exact h
  · exact within_openBlock t _ h

lemma steps_takeBlockEntry (h : l.Within text) : Steps text l.takeBlockEntry := by
  refine .ite (fun _ => .error .malformed) fun _ => ?_
  exact (steps_dropCandidate (within_openUnlessFlow _ h)).bind fun _ hl => .ok (within_next hl)

lemma steps_takeKey (h : l.Within text) : Steps text l.takeKey := by
  refine .ite (fun _ => .error .malformed) fun _ => ?_
  exact (steps_dropCandidate (within_openUnlessFlow _ h)).bind fun _ hl => .ok (within_next hl)

lemma steps_takeValue (h : l.Within text) : Steps text l.takeValue := by
  unfold takeValue
  split
  · exact .ok (within_next h)
  · exact .ite (fun _ => .error .malformed) fun _ =>
      .ok (within_next (within_openUnlessFlow .blockMapping h))

lemma steps_takeNode {scan : Cursor → Except Problem (Token × Cursor)}
    (hscan : ∀ {c : Cursor}, c.Within text → Scans text (scan c)) (h : l.Within text) :
    Steps text (l.takeNode scan) :=
  (steps_saveCandidate h).bind fun _ hl => (hscan hl).bind fun _ hx => .ok hx

lemma steps_takeQuoted (quote : Char) (h : l.Within text) : Steps text (l.takeQuoted quote) :=
  steps_takeNode (fun hc => (Quoted.scans_scan hc).bind fun _ hx => .ok hx) h

lemma steps_takePlain (h : l.Within text) : Steps text l.takePlain :=
  (steps_saveCandidate h).bind fun _ hl => .ok (Plain.within_scan hl)

lemma steps_takeBlock (isFolded : Bool) (h : l.Within text) : Steps text (l.takeBlock isFolded) :=
  (steps_dropCandidate h).bind fun _ hl => (Block.scans_scan hl).bind fun _ hx => .ok hx

/-- Whatever a token starts with, taking it ends at a place in the text. -/
lemma steps_take (x : Char) (h : l.Within text) : Steps text (l.take x) := by
  unfold take
  refine .ite (fun _ => steps_takeDirective h) fun _ => ?_
  refine .ite (fun _ => steps_takeMarker _ h) fun _ => ?_
  refine .ite (fun _ => steps_takeMarker _ h) fun _ => ?_
  refine .ite (fun _ => steps_openFlow _ h) fun _ => ?_
  refine .ite (fun _ => steps_openFlow _ h) fun _ => ?_
  refine .ite (fun _ => steps_closeFlow _ h) fun _ => ?_
  refine .ite (fun _ => steps_closeFlow _ h) fun _ => ?_
  refine .ite (fun _ => steps_takeFlowEntry h) fun _ => ?_
  refine .ite (fun _ => steps_takeBlockEntry h) fun _ => ?_
  refine .ite (fun _ => steps_takeKey h) fun _ => ?_
  refine .ite (fun _ => steps_takeValue h) fun _ => ?_
  refine .ite (fun _ => steps_takeNode (fun hc => ?_) h) fun _ => ?_
  · exact (scans_anchor hc).bind fun _ hx => .ok hx
  refine .ite (fun _ => steps_takeNode (fun hc => ?_) h) fun _ => ?_
  · exact (scans_anchor hc).bind fun _ hx => .ok hx
  refine .ite (fun _ => steps_takeNode (fun hc => ?_) h) fun _ => ?_
  · exact (scans_tag hc).bind fun _ hx => .ok hx
  refine .ite (fun _ => steps_takeBlock _ h) fun _ => ?_
  refine .ite (fun _ => steps_takeBlock _ h) fun _ => ?_
  refine .ite (fun _ => steps_takeQuoted x h) fun _ => ?_
  exact .ite (fun _ => steps_takePlain h) fun _ => .error .malformed

lemma ends_run (fuel : Nat) (h : l.Within text) :
    Ends (Spoils text) (fun _ => True) (run fuel l) := by
  induction fuel generalizing l with
  | zero => exact .error .malformed
  | succ fuel ih =>
    refine (steps_settle h).bind fun l hl => ?_
    split
    · next x _ => exact (steps_take x hl).bind fun l hl => ih hl
    · exact (steps_dropCandidate (within_unwind none hl)).bind fun _ _ => .ok trivial

end Layout

/-- A text has tokens, or it is spoilt by its form or by an escape in it. -/
theorem ends_tokens (text : List Char) :
    Ends (Spoils (unifyLines text)) (fun _ => True) (tokens text) :=
  .ite (fun _ => Layout.ends_run _ List.suffix_rfl) fun _ => .error .malformed

end MissingSamples.Yaml
