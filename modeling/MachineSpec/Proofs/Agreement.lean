/-
MachineSpec.Proofs.Agreement — compiling a document and its declarations one by one.

A document is read and validated as a whole before its first machine is made, and messages
are attached after all machines. `Workshop.compileDocument_iff_pieces` proves that a new
compiler gets the same from the declarations of the text one by one: it succeeds if and only
if the document compiles, and makes the same classes, with the same machines up to places,
tables that no call distinguishes, and the same channels.

The proof combines three modules: `Partition` (the text is cut into pieces, which are read
alike up to places), `Order` (the order of making machines and attaching messages does not
matter) and `Relocation` (places do not matter).
-/
import MachineSpec.Proofs.Order
import MachineSpec.Proofs.Partition
import MachineSpec.Proofs.Relocation

namespace MachineSpec

open Work

open Placed (unplaced)

/-! ## 1. Pieces -/

/-- Compiles a declaration by itself. -/
def Work.compilePiece (bindings : Bindings) (home : String) (piece : Piece) : Work Class :=
  match piece.keyword with
  | .machine => compileMachine bindings false home piece.body
  | .fallibleMachine => compileMachine bindings true home piece.body
  | .messages => compileMessages bindings piece.body

/-- Compiles declarations one by one, up to the first that fails. -/
def Work.compilePieces (bindings : Bindings) (home : String) (pieces : List Piece) :
    Work (List Class) :=
  pieces.mapM (compilePiece bindings home)

/-- The work is done, and no error comes of it. -/
def Work.Succeeds {α : Type} (work : Work α) (w : Workshop) : Prop :=
  ∃ a v, outcome work w = (.ok a, v)

theorem Parse.text_map {α β : Type} {p : Parse α} {f : α → β} {source : String} :
    text (f <$> p) source = f <$> text p source := by
  unfold text
  cases tokenize source with
  | error error => rfl
  | ok tokens =>
    show ((f <$> p).run (TokenStream.ofTokens tokens)).1 = f <$> (p.run (TokenStream.ofTokens tokens)).1
    rw [map_eq_pure_bind, ExceptT.run_bind]
    simp only [bind, StateT.bind]
    rcases p.run (TokenStream.ofTokens tokens) with ⟨error | a, rest⟩ <;> rfl

theorem mapError_map_bind {α β γ ε ε' : Type} {x : Except ε α} {f : α → β} {g : ε → ε'}
    {next : β → Except ε' γ} :
    (f <$> x).mapError g >>= next = x.mapError g >>= fun a => next (f a) := by
  cases x <;> rfl

namespace Workshop

variable {w v v' : Workshop} {bindings : Bindings} {home source : String} {piece : Piece}
  {pieces : List Piece} {kind : Class} {kinds : List Class} {made : List (String × Class)}

/-- What a piece comes to. -/
def compilePiece (w : Workshop) (bindings : Bindings) (home : String) (piece : Piece) :
    Except Error (Class × Workshop) := do
  let declared ← piece.read.mapError fun error => Error.rejected (.malformed error)
  w.declare bindings home declared

/-- Where the first part only reads, only the second can be affected by the log. -/
theorem settle_bind_unlogged {α β : Type} {result : Except Error α}
    {next next' : α → Except Error (β × Workshop)}
    (same : ∀ a, w.unlogged.settle (next' a) = w.settle (next a)) :
    w.unlogged.settle (result >>= next') = w.settle (result >>= next) := by
  cases result with
  | error error => rfl
  | ok a => exact same a

theorem settle_declare_unlogged {declared : Declaration} :
    w.unlogged.settle (w.unlogged.declare bindings home declared) =
      w.settle (w.declare bindings home declared) := by
  cases declared with
  | machine decl => exact settle_bind_unlogged fun machine => settle_build_unlogged
  | messages decl =>
    exact settle_bind_unlogged fun kind => settle_bind_unlogged fun table =>
      settle_bind_unlogged fun messages => settle_attach_unlogged

/-- To compile the text of a machine is to compile what it declares. -/
theorem build_ofText {fallible : Bool} :
    (do
      let machine ← (Machine.ofText fallible source).mapError Error.rejected
      w.build bindings home machine) =
    (do
      let decl ← (MachineDecl.ofText fallible source).mapError fun error =>
        Error.rejected (.malformed error)
      w.declare bindings home (.machine decl)) := by
  unfold Machine.ofText
  cases MachineDecl.ofText fallible source with
  | error error => rfl
  | ok decl =>
    show ((Machine.ofDecl decl).mapError Rejection.invalid).mapError Error.rejected >>= _ =
      (Machine.ofDecl decl).mapError _ >>= _
    cases Machine.ofDecl decl <;> rfl

end Workshop

namespace Work

variable {w v : Workshop} {bindings : Bindings} {home source : String} {piece : Piece}
  {pieces : List Piece} {kinds : List Class} {made : List (String × Class)}

/-- A piece is read, and then its declaration is compiled for itself. -/
theorem outcome_compilePiece :
    outcome (compilePiece bindings home piece) w = w.settle (w.compilePiece bindings home piece) := by
  obtain ⟨keyword, body⟩ := piece
  unfold Workshop.compilePiece Piece.read
  cases keyword with
  | machine =>
    show outcome (compileMachine bindings false home body) w =
      w.settle ((Parse.text (Declaration.machine <$> Parse.machine false .finish) body).mapError _ >>= _)
    rw [Parse.text_map, mapError_map_bind, outcome_compileMachine, Workshop.build_ofText]
    rfl
  | fallibleMachine =>
    show outcome (compileMachine bindings true home body) w =
      w.settle ((Parse.text (Declaration.machine <$> Parse.machine true .finish) body).mapError _ >>= _)
    rw [Parse.text_map, mapError_map_bind, outcome_compileMachine, Workshop.build_ofText]
    rfl
  | messages =>
    show outcome (compileMessages bindings body) w =
      w.settle ((Parse.text (Declaration.messages <$> Parse.messages .finish) body).mapError _ >>= _)
    rw [Parse.text_map, mapError_map_bind]
    exact outcome_compileMessages home

theorem compilePiece_deaf : Deaf (compilePiece bindings home piece) :=
  .of_settle (fun _ => outcome_compilePiece) fun w => by
    unfold Workshop.compilePiece
    exact Workshop.settle_bind_unlogged fun _ => Workshop.settle_declare_unlogged

/-- Pieces are done one after another. -/
theorem outcome_compilePieces_iff :
    outcome (compilePieces bindings home pieces) w = (.ok kinds, v) ↔
      ∃ u, Workshop.advance (fun w => w.compilePiece bindings home) w pieces = (.ok kinds, u) ∧
        v = u.unlogged := by
  have comes : outcome (compilePieces bindings home pieces) w = _ :=
    (outcome_mapM (fun _ => compilePiece_deaf) fun _ _ => outcome_compilePiece).2 w
  rw [comes]
  rcases Workshop.advance (fun w => w.compilePiece bindings home) w pieces with ⟨result, u⟩
  constructor
  · rintro ⟨rfl, rfl⟩
    exact ⟨u, rfl, rfl⟩
  · rintro ⟨_, ⟨⟩, rfl⟩
    rfl

/-- A document is read, and then compiled as a whole. -/
theorem outcome_compileDocument_iff :
    outcome (compileDocument bindings home source) w = (.ok made, v) ↔
      ∃ document u, Document.read source = (document, none) ∧
        w.compile bindings home document = (.ok made, u) ∧ v = u.unlogged := by
  rcases read : Document.read source with ⟨document, _ | why⟩
  · rw [outcome_compileDocument read]
    constructor
    · intro done
      have result : (w.compile bindings home document).1 = .ok made := congrArg Prod.fst done
      exact ⟨document, (w.compile bindings home document).2, rfl, Prod.ext result rfl,
        (congrArg Prod.snd done).symm⟩
    · rintro ⟨_, u, ⟨⟩, compiled, rfl⟩
      rw [compiled]
  · rw [outcome_refused read]
    refine iff_of_false (by rintro ⟨⟩) ?_
    rintro ⟨_, _, ⟨⟩, -⟩

end Work

/-! ## 2. Two ways -/

namespace Workshop

variable {w v v' : Workshop} {bindings : Bindings} {home source : String} {pieces : List Piece}
  {kinds : List Class} {made : List (String × Class)}

/-- Pieces come to what their declarations come to. -/
theorem advance_compilePiece_iff :
    advance (fun w => w.compilePiece bindings home) w pieces = (.ok kinds, v) ↔
      ∃ declarations,
        List.Forall₂ (fun piece declared => piece.read = .ok declared) pieces declarations ∧
          advance (fun w => w.declare bindings home) w declarations = (.ok kinds, v) := by
  induction pieces generalizing w kinds with
  | nil =>
    constructor
    · intro none
      exact ⟨[], .nil, none⟩
    · rintro ⟨_, ⟨⟩, none⟩
      exact none
  | cons piece rest ih =>
    have step {kind : Class} {t : Workshop} :
        w.compilePiece bindings home piece = .ok (kind, t) ↔
          ∃ declared, piece.read = .ok declared ∧ w.declare bindings home declared = .ok (kind, t) := by
      rw [compilePiece, Except.bind_eq_ok_iff]
      simp only [mapError_eq_ok_iff]
    simp only [advance_cons_iff, step, ih]
    constructor
    · rintro ⟨kind, t, others, ⟨declared, read, done⟩, ⟨declarations, reads, onward⟩, rfl⟩
      exact ⟨declared :: declarations, .cons read reads,
        advance_cons_iff.mpr ⟨kind, t, others, done, onward, rfl⟩⟩
    · rintro ⟨_, reads, advanced⟩
      cases reads with
      | cons read reads =>
        obtain ⟨kind, t, others, done, onward, rfl⟩ := advance_cons_iff.mp advanced
        exact ⟨kind, t, others, ⟨_, read, done⟩, ⟨_, reads, onward⟩, rfl⟩

/-- A new compiler compiles a document just if the text declares something and its declarations can
    be compiled one after another. -/
theorem outcome_document_iff (fresh : w.compiler.made = []) :
    (∃ made, outcome (compileDocument bindings home source) w = (.ok made, v)) ↔
      ∃ tokens declarations kinds u, tokenize source = .ok tokens ∧
        Document.Phrase tokens.items declarations ∧
        advance (fun w => w.declare bindings home) w declarations = (.ok kinds, u) ∧
        v = u.unlogged := by
  simp only [outcome_compileDocument_iff, Document.read_iff]
  constructor
  · rintro ⟨made, document, u, ⟨tokens, declarations, scanned, fits, declared⟩, compiled, rfl⟩
    obtain ⟨kinds, advanced⟩ := (compile_iff_advance fresh).mp ⟨document, made, declared, compiled⟩
    exact ⟨tokens, declarations, kinds, u, scanned, fits, advanced, rfl⟩
  · rintro ⟨tokens, declarations, kinds, u, scanned, fits, advanced, rfl⟩
    obtain ⟨document, made, declared, compiled⟩ := (compile_iff_advance fresh).mpr ⟨kinds, advanced⟩
    exact ⟨made, document, u, ⟨tokens, declarations, scanned, fits, declared⟩, compiled, rfl⟩

/-- The pieces of a document that compiles can be compiled one by one. -/
theorem pieces_of_document (fresh : w.compiler.made = [])
    (composed : Composed pieces source.toList)
    (done : outcome (compileDocument bindings home source) w = (.ok made, v)) :
    ∃ kinds v', outcome (compilePieces bindings home pieces) w = (.ok kinds, v') ∧
      unplaced v = unplaced v' := by
  obtain ⟨tokens, declarations, kinds, u, scanned, fits, advanced, rfl⟩ :=
    (outcome_document_iff fresh).mp ⟨made, done⟩
  -- the same is declared, but every piece counts its places from its own beginning
  obtain ⟨read, reads, same⟩ := composed.reads scanned fits
  obtain ⟨u', advanced', equal⟩ := advance_congr same.symm advanced
  have apart := advance_compilePiece_iff.mpr ⟨read, reads, advanced'⟩
  exact ⟨kinds, u'.unlogged, outcome_compilePieces_iff.mpr ⟨u', apart, rfl⟩,
    congrArg unlogged equal⟩

/-- If its pieces can be compiled one by one, so can the document. -/
theorem document_of_pieces (fresh : w.compiler.made = [])
    (composed : Composed pieces source.toList)
    (done : outcome (compilePieces bindings home pieces) w = (.ok kinds, v)) :
    Succeeds (compileDocument bindings home source) w := by
  obtain ⟨u, apart, rfl⟩ := outcome_compilePieces_iff.mp done
  obtain ⟨read, reads, advanced⟩ := advance_compilePiece_iff.mp apart
  obtain ⟨tokens, declarations, scanned, fits, same⟩ := composed.declares reads
  obtain ⟨u', advanced', -⟩ := advance_congr same.symm advanced
  obtain ⟨made, whole⟩ :=
    (outcome_document_iff fresh).mpr ⟨tokens, declarations, kinds, u', scanned, fits, advanced', rfl⟩
  exact ⟨made, _, whole⟩

/-! ## 3. Main theorem -/

/-- Both workshops have the machine class that goes by a name. It was made of the same machine but
    for places, no call can tell the tables apart, and it has the same channels. -/
structure Shares (v v' : Workshop) (name : String) (kind : Class) (table table' : Table) : Prop where
  here : v.registry.table? kind = some table
  there : v'.registry.table? kind = some table'
  named : table.name = name
  machine : unplaced table.machine = unplaced table'.machine
  behaviour : table.Resembles table' (v.registry.channels? kind) (v'.registry.channels? kind)
  channels : unplaced (v.registry.channels? kind) = unplaced (v'.registry.channels? kind)

/-- What a document makes, and what its pieces make. -/
structure Agree (made : List (String × Class)) (v : Workshop) (kinds : List Class) (v' : Workshop) :
    Prop where
  /-- The compilers remember the same classes by the same names. -/
  here : v.compiler.made = made.reverse
  there : v'.compiler.made = made.reverse
  /-- The pieces give no other classes than the document. -/
  given : ∀ kind, kind ∈ kinds ↔ kind ∈ made.map Prod.snd
  classes : ∀ entry ∈ made, ∃ table table', Shares v v' entry.1 entry.2 table table'

theorem shares_of_unplaced {entry : String × Class} {machine : Machine}
    (same : unplaced v = unplaced v') (named : machine.name = entry.1)
    (shelves : v.Shelves machine entry.2) :
    ∃ table table', Shares v v' entry.1 entry.2 table table' := by
  obtain ⟨table, here, rfl⟩ := shelves.table?
  have tables : unplaced (v.registry.table? entry.2) = unplaced (v'.registry.table? entry.2) := by
    rw [← unplaced_table?, same, unplaced_table?]
  have channels : unplaced (v.registry.channels? entry.2) =
      unplaced (v'.registry.channels? entry.2) := by
    rw [← unplaced_channels?, same, unplaced_channels?]
  rw [here] at tables
  obtain ⟨table', there, equal⟩ := Option.map_eq_some_iff.mp tables.symm
  exact ⟨table, table',
    { here, there, named, channels
      machine := congrArg Table.machine equal.symm
      behaviour := Table.resembles_of_unplaced equal.symm channels }⟩

/-- If both ways succeed, they agree. -/
theorem agree_of_unplaced (fresh : w.compiler.made = [])
    (whole : outcome (compileDocument bindings home source) w = (.ok made, v))
    (apart : outcome (compilePieces bindings home pieces) w = (.ok kinds, v'))
    (same : unplaced v = unplaced v') : Agree made v kinds v' := by
  have compilers : (unplaced v).compiler = (unplaced v').compiler :=
    congrArg Workshop.compiler same
  obtain ⟨document, u, read, compiled, rfl⟩ := outcome_compileDocument_iff.mp whole
  obtain ⟨u', pieces_done, rfl⟩ := outcome_compilePieces_iff.mp apart
  obtain ⟨declarations, -, advanced⟩ := advance_compilePiece_iff.mp pieces_done
  have here : u.compiler.made = made.reverse := made_of_compile fresh compiled
  have there : u'.compiler.made = made.reverse := (congrArg Compiler.made compilers).symm.trans here
  refine ⟨here, there, fun kind => ?_, fun entry mem => ?_⟩
  · rw [mem_of_advance fresh advanced, there, List.map_reverse, List.mem_reverse]
  · obtain ⟨machine, named, shelves⟩ := shelves_of_compile compiled entry mem
    exact shares_of_unplaced same named ⟨shelves.old, shelves.here⟩

/-- For a new compiler, a text compiles as a document if and only if it is composed of declarations
    that compile one by one. With whatever pieces it is composed of, both ways then have the same
    results. -/
theorem compileDocument_iff_pieces (w : Workshop) (options : Options)
    (new : w.compiler = .fresh options)
    (bindings : Bindings) (home source : String) :
    (Succeeds (compileDocument bindings home source) w ↔
      ∃ pieces, Composed pieces source.toList ∧ Succeeds (compilePieces bindings home pieces) w) ∧
    ∀ pieces, Composed pieces source.toList →
      (Succeeds (compileDocument bindings home source) w ↔
        Succeeds (compilePieces bindings home pieces) w) ∧
      ∀ made v kinds v',
        outcome (compileDocument bindings home source) w = (.ok made, v) →
        outcome (compilePieces bindings home pieces) w = (.ok kinds, v') →
          Agree made v kinds v' := by
  have fresh : w.compiler.made = [] := by rw [new]; rfl
  have alike {pieces : List Piece} (composed : Composed pieces source.toList) :
      Succeeds (compileDocument bindings home source) w ↔
        Succeeds (compilePieces bindings home pieces) w := by
    constructor
    · rintro ⟨made, v, whole⟩
      obtain ⟨kinds, v', apart, -⟩ := pieces_of_document fresh composed whole
      exact ⟨kinds, v', apart⟩
    · rintro ⟨kinds, v', apart⟩
      exact document_of_pieces fresh composed apart
  refine ⟨⟨fun succeeds => ?_, fun ⟨pieces, composed, succeeds⟩ => (alike composed).mpr succeeds⟩,
    fun pieces composed => ⟨alike composed, fun made v kinds v' whole apart => ?_⟩⟩
  · obtain ⟨made, v, whole⟩ := succeeds
    obtain ⟨tokens, declarations, -, -, scanned, fits, -, -⟩ :=
      (outcome_document_iff fresh).mp ⟨made, whole⟩
    obtain ⟨pieces, composed⟩ := composed_of_tokenize scanned fits
    exact ⟨pieces, composed, (alike composed).mp ⟨made, v, whole⟩⟩
  · obtain ⟨kinds', u, apart', same⟩ := pieces_of_document fresh composed whole
    cases apart'.symm.trans apart
    exact agree_of_unplaced fresh whole apart same

/-! ## 4. Three declarations -/

/-- The state of the desk and of the line. -/
def free : Class := Class.object.plain 100 "Free"

/-- What the desk is told. -/
def call : Class := Class.object.plain 101 "Call"

/-- The state and the message are bound, and what takes the message. -/
def deskBindings : Bindings :=
  { Bindings.empty [("Free", .cls free), ("Call", .cls call)] with
    receivers := [(("FreeState", "Call"), .routine 0)] }

/-- The compiler has made nothing yet. -/
def newDesk : Workshop := ⟨.fresh .default, .empty⟩

/-- A machine, its messages, and another machine. -/
def deskPieces : List Piece :=
  [⟨.machine, "Desk, Free, [Free], []"⟩, ⟨.messages, "Desk, [Call -> Free]"⟩,
    ⟨.machine, "Line, Free, [Free], []"⟩]

def deskText : String :=
  "machine(Desk, Free, [Free], [])messages(Desk, [Call -> Free])machine(Line, Free, [Free], [])"

theorem desk_composed : Composed deskPieces deskText.toList := by
  have text : deskText.toList = deskPieces.flatMap Piece.text := by decide +kernel
  have readable : ∀ piece ∈ deskPieces, piece.read.isOk = true := by decide +kernel
  rw [text]
  exact composed_of_read (by decide +kernel) fun piece mem => exists_ok (readable piece mem)

/-- A word of four letters as it stands in the text. -/
def wordAt (word : String) (offset : Nat) : Reference :=
  ⟨⟨word, []⟩, ⟨⟨offset, 1, offset + 1⟩, 4⟩⟩

/-- A machine with nothing but the one state. -/
def freeMachine (name : String) (offset : Nat) : Machine :=
  ⟨name, ⟨wordAt "Free" offset, []⟩, [⟨wordAt "Free" offset, []⟩], [], none⟩

theorem deskText_read : Document.read deskText =
    (⟨[freeMachine "Desk" 21, freeMachine "Line" 82],
      [⟨"Desk", [⟨wordAt "Call" 47, .push, wordAt "Free" 55, (wordAt "Call" 47).span⟩]⟩]⟩, none) := by
  decide +kernel

theorem desk_compiled :
    ∃ made v, outcome (compileDocument deskBindings "m" deskText) newDesk = (.ok made, v) ∧
      made.map Prod.fst = ["Desk", "Line"] := by
  rw [outcome_compileDocument deskText_read]
  exact ⟨_, _, rfl, rfl⟩

/-- Compiled one by one, the messages of the first machine are attached before the second machine is
    made. -/
theorem compileDocument_iff_pieces_desk :
    Composed deskPieces deskText.toList ∧ ∃ made v kinds v',
      outcome (compileDocument deskBindings "m" deskText) newDesk = (.ok made, v) ∧
      outcome (compilePieces deskBindings "m" deskPieces) newDesk = (.ok kinds, v') ∧
      made.map Prod.fst = ["Desk", "Line"] ∧ Agree made v kinds v' := by
  obtain ⟨made, v, whole, names⟩ := desk_compiled
  obtain ⟨-, law⟩ := compileDocument_iff_pieces newDesk .default rfl deskBindings "m" deskText
  obtain ⟨alike, agree⟩ := law deskPieces desk_composed
  obtain ⟨kinds, v', apart⟩ := alike.mp ⟨made, v, whole⟩
  exact ⟨desk_composed, made, v, kinds, v', whole, apart, names, agree made v kinds v' whole apart⟩

end Workshop

end MachineSpec
