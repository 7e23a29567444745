/-
MachineSpec.Proofs.Composition — a document appended to another one.

Two documents can be written one below the other if they share no name of a machine. Three
facts are needed. The scanner starts anew on a line that begins outside of a token, so the
first text is scanned as alone, also if its last line is a comment (`scan_below`), and the
second as alone with shifted positions (`scan_shift`). The reader keeps nothing from one
declaration to the next, so the phrases follow each other (`Document.Phrase.append`).
Validation compares a declaration with earlier ones by names only
(`Document.declareAll_below`).

* `read_appended`: the machines and messages of the first document are followed by those of
  the second, with shifted places.
-/
import MachineSpec.Proofs.Movement
import MachineSpec.Proofs.Partition
import MachineSpec.Proofs.Positions

namespace MachineSpec

open Movable (moved)

/-! ## 1. Further down -/

/-- The same place in a text that has so many more characters and lines in front. -/
def Position.shift (offset lines : Nat) (here : Position) : Position :=
  ⟨here.offset + offset, here.line + lines, here.column⟩

/-- The same stretch in a text that has so many more characters and lines in front. -/
def Span.shift (offset lines : Nat) (span : Span) : Span :=
  ⟨span.toPosition.shift offset lines, span.length⟩

variable {offset lines : Nat} {here : Position}

theorem Position.shift_next {c : Char} :
    (here.shift offset lines).next c = (here.next c).shift offset lines := by
  unfold next
  split
  · simp [shift]
    omega
  · simp [shift]
    omega

/-- Behind a line feed a text begins anew, further down. -/
theorem Position.after_line_feed {text : List Char} :
    Position.start.after (text ++ ['\n']) =
      Position.start.shift (text.length + 1) (text.count '\n' + 1) := by
  have offset := @after_offset .start text
  have line := @after_line .start text
  rw [after_snoc, next, if_pos rfl, offset, line]
  simp [shift, start]
  omega

/-- A text has the same tokens wherever it stands, at places that are as much further down. -/
theorem scan_shift {pending : Pending} {text : List Char} {tokens : Tokens}
    (scanned : scan pending here text = .ok tokens) :
    scan pending (here.shift offset lines) text =
      .ok ⟨moved (Span.shift offset lines) tokens.items, tokens.finish.shift offset lines⟩ := by
  fun_induction scan pending here text generalizing tokens with
  | case1 =>
    cases scanned
    rfl
  | case2 here c rest ih =>
    rw [scan, Position.shift_next]
    exact ih scanned
  | case3 left here c rest ih =>
    rw [scan, Position.shift_next]
    exact ih scanned
  | case4 here c rest blank ih =>
    rw [scan, if_pos blank, Position.shift_next]
    exact ih scanned
  | case5 here c rest noBlank comment ih =>
    rw [scan, if_neg noBlank, if_pos comment, Position.shift_next]
    exact ih scanned
  | case6 => cases scanned
  | case7 => cases scanned
  | case8 here c rest noBlank noComment kind more delivers others behind token =>
    rename_i ih
    cases scanned
    rw [scan, if_neg noBlank, if_neg noComment, delivers, Position.shift_next]
    dsimp only
    rw [ih behind]
    rfl

/-! ## 2. Scanning on -/

namespace Unended

variable {tail next : List Char}

/-- Every token ends where an unended comment begins. -/
theorem stops (ends : Unended tail) {kind : TokenKind}
    (behind : ∀ c ∈ next.head?, kind.stops c = true) :
    ∀ c ∈ (tail ++ next).head?, kind.stops c = true := by
  cases ends with
  | nil => exact behind
  | comment opens =>
    rcases opens with rfl | rfl
    all_goals
      rintro c ⟨rfl⟩
      cases kind <;> decide

/-- The end of its line ends it. -/
theorem trivia (ends : Unended tail) : Trivia (tail ++ ['\n']) := by
  cases ends with
  | nil => exact .blank (by decide) .nil
  | comment opens line =>
    rw [List.append_assoc]
    exact .comment opens line .nil

end Unended

/-- Below a text another one is scanned as if nothing were in front of it but its place. -/
theorem scan_below {first second : List Char} {tokens : Tokens}
    (scanned : scan (.lexeme 0) here first = .ok tokens) :
    scan (.lexeme 0) here (first ++ '\n' :: second) =
      (scan (.lexeme 0) (here.after (first ++ ['\n'])) second).map
        (Tokens.behind tokens.items) := by
  obtain ⟨front, tail, rfl, written, ends⟩ := written_of_scan scanned
  obtain ⟨items, -, goes⟩ := @scan_written _ _ written here
  have line (kind : TokenKind) : ∀ c ∈ ('\n' :: second).head?, kind.stops c = true := by
    rintro c ⟨rfl⟩
    exact stops_of_isBlank (by decide)
  have same : tokens.items = items := by
    obtain ⟨others, alone, nothing⟩ := Scans.unended ends (here.after front)
    have stops (kind : TokenKind) : ∀ c ∈ tail.head?, kind.stops c = true := by
      have ended := @Unended.stops tail [] ends kind nofun
      rwa [List.append_nil] at ended
    rw [goes tail stops, alone] at scanned
    cases scanned
    show items ++ others.items = items
    rw [List.map_eq_nil_iff.mp nothing, List.append_nil]
  have whole : front ++ tail ++ '\n' :: second = front ++ (tail ++ '\n' :: second) :=
    List.append_assoc ..
  have cut : tail ++ '\n' :: second = (tail ++ ['\n']) ++ second := by simp
  rw [whole, goes _ fun kind => ends.stops (line kind), cut, scan_trivia ends.trivia, same,
    List.append_assoc, ← after_append]

/-- The tokens of two texts, one below the other. -/
theorem tokenize_below {first second : String} {tokens tokens' : Tokens}
    (scanned : tokenize first = .ok tokens) (scanned' : tokenize second = .ok tokens') :
    ∃ finish, tokenize (first ++ "\n" ++ second) = .ok ⟨tokens.items ++
      moved (Span.shift (first.length + 1) (first.toList.count '\n' + 1)) tokens'.items,
      finish⟩ := by
  have chars : (first ++ "\n" ++ second).toList = first.toList ++ '\n' :: second.toList := by
    simp
  unfold tokenize at scanned scanned' ⊢
  rw [chars, scan_below scanned, Position.after_line_feed, String.length_toList,
    scan_shift scanned']
  exact ⟨_, rfl⟩

/-! ## 3. Declarations -/

theorem Document.Phrase.append {phrase phrase' : List Token}
    {declarations declarations' : List Declaration} (first : Document.Phrase phrase declarations)
    (second : Document.Phrase phrase' declarations') :
    Document.Phrase (phrase ++ phrase') (declarations ++ declarations') := by
  induction first with
  | nil => exact second
  | cons declares more ih =>
    rw [List.append_assoc]
    exact .cons declares ih

namespace Document

variable {former latter document : Document} {move : Span → Span}

/-- The declarations of one document behind those of another. -/
def append (former latter : Document) : Document :=
  ⟨former.machines ++ latter.machines, former.messages ++ latter.messages⟩

theorem machine?_append {name : String} (other : former.machine? name = none) :
    (former.append (moved move latter)).machine? name = moved move (latter.machine? name) := by
  have search : (moved move latter.machines).find? (·.name == name) =
      moved move (latter.machines.find? (·.name == name)) := moved_find? fun _ => rfl
  show (former.machines ++ moved move latter.machines).find? (·.name == name) = _
  rw [List.find?_append, show former.machines.find? (·.name == name) = none from other, search]
  rfl

/-- Declarations that make a document by themselves do so below a document that shares no name. -/
theorem declareAll_below {declarations : List Declaration}
    (declared : empty.declareAll declarations = (latter, none))
    (apart : List.Disjoint (former.machines.map Machine.name) (latter.machines.map Machine.name)) :
    former.declareAll (moved move declarations) = (former.append (moved move latter), none) := by
  induction declarations using List.reverseRecOn generalizing latter with
  | nil =>
    cases declared
    show (former, none) = _
    simp [append, moved, empty]
  | append_singleton declarations last ih =>
    obtain ⟨before, accepted, grown⟩ := declareAll_snoc_iff.mp declared
    have new {name : String} (mem : name ∈ latter.machines.map Machine.name) :
        former.machine? name = none :=
      machine?_eq_none_iff.mpr fun known => apart known mem
    rw [moved_append, moved_cons, moved_nil, declareAll_snoc_iff]
    cases last with
    | machine decl =>
      obtain ⟨unknown, machine, made, rfl⟩ := declare_machine_iff.mp grown
      have named := Machine.name_of_ofDecl made
      have below := ih accepted fun name known mem =>
        apart known (by rw [List.map_append]; exact List.mem_append_left _ mem)
      refine ⟨_, below, declare_machine_iff.mpr ⟨?_, _, Machine.moved_ofDecl made, ?_⟩⟩
      · show (former.append (moved move before)).machine? decl.name = none
        rw [machine?_append (new (by simp [named])), unknown]
        rfl
      · simp [append, moved]
    | messages decl =>
      obtain ⟨machine, messages, found, made, rfl⟩ := declare_messages_iff.mp grown
      obtain ⟨mem, named⟩ := mem_of_machine? found
      have below := ih accepted apart
      refine ⟨_, below, declare_messages_iff.mpr ⟨_, _, ?_, Messages.moved_ofDecl made, ?_⟩⟩
      · show (former.append (moved move before)).machine? decl.name = _
        rw [machine?_append (new (named ▸ List.mem_map_of_mem mem)), found]
        rfl
      · simp [append, moved]

theorem remarks_append : (former.append latter).remarks = former.remarks ++ latter.remarks :=
  List.filterMap_append

end Document

/-! ## 4. Main theorem -/

/-- If two texts are documents and share no name of a machine, then the texts joined by a line feed
    are a document. It has the machines and messages of the first, and then those of the second with
    all spans shifted by the length and the lines of the first text. Its remarks are those of both,
    in order. -/
theorem read_appended {first second : String} {former latter : Document}
    (read : Document.read first = (former, none)) (read' : Document.read second = (latter, none))
    (apart : List.Disjoint (former.machines.map Machine.name) (latter.machines.map Machine.name)) :
    Document.read (first ++ "\n" ++ second) = (former.append
      (moved (Span.shift (first.length + 1) (first.toList.count '\n' + 1)) latter), none) ∧
    (Document.read (first ++ "\n" ++ second)).1.remarks = former.remarks ++ latter.remarks := by
  obtain ⟨tokens, declarations, scanned, fits, declared⟩ := Document.read_iff.mp read
  obtain ⟨tokens', declarations', scanned', fits', declared'⟩ := Document.read_iff.mp read'
  obtain ⟨finish, whole⟩ := tokenize_below scanned scanned'
  have composed := Document.read_iff.mpr ⟨_, _, whole, fits.append (Grammar.moves_document fits'),
    Document.declareAll_append_iff.mpr ⟨former, declared, Document.declareAll_below declared' apart⟩⟩
  refine ⟨composed, ?_⟩
  rw [composed]
  show (former.append _).remarks = _
  rw [Document.remarks_append, Document.moved_remarks]

/-- A state or payload name without arguments, and its place. -/
def spot (name : String) (offset line column : Nat) : Reference :=
  ⟨⟨name, []⟩, ⟨⟨offset, line, column⟩, name.length⟩⟩

/-- A machine on two lines, of which the last ends in a comment, with a state out of reach. -/
def upperText : String := "machine(A, On,\n  [On, Off], []) # stuck"

def upperDocument : Document :=
  ⟨[⟨"A", ⟨spot "On" 18 2 4, []⟩, [⟨spot "On" 18 2 4, []⟩, ⟨spot "Off" 22 2 8, []⟩], [], none⟩], []⟩

/-- Another machine, and messages to it on a line of their own. -/
def lowerText : String := "machine(B, On, [On], [])\nmessages(B, [P -> On])"

def lowerDocument : Document :=
  ⟨[⟨"B", ⟨spot "On" 16 1 17, []⟩, [⟨spot "On" 16 1 17, []⟩], [], none⟩],
    [⟨"B", [⟨spot "P" 38 2 14, .push, spot "On" 43 2 19, (spot "P" 38 2 14).span⟩]⟩]⟩

theorem upperText_read : Document.read upperText = (upperDocument, none) := by decide +kernel

theorem lowerText_read : Document.read lowerText = (lowerDocument, none) := by decide +kernel

/-- The first text has 39 characters and ends in a comment; the second is shifted by 40 characters
    and two lines. -/
theorem read_appended_lines :
    Document.read (upperText ++ "\n" ++ lowerText) =
      (upperDocument.append (moved (Span.shift 40 2) lowerDocument), none) ∧
    (Document.read (upperText ++ "\n" ++ lowerText)).1.remarks =
      ["A: states ['Off'] are not reachable from initial state On"] := by
  have apart : List.Disjoint (upperDocument.machines.map Machine.name)
      (lowerDocument.machines.map Machine.name) := by
    simp [upperDocument, lowerDocument]
  obtain ⟨composed, remarks⟩ := read_appended upperText_read lowerText_read apart
  have remarked : upperDocument.remarks ++ lowerDocument.remarks =
      ["A: states ['Off'] are not reachable from initial state On"] := by decide +kernel
  exact ⟨composed, remarks.trans remarked⟩

end MachineSpec
