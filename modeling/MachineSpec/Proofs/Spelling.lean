/-
MachineSpec.Proofs.Spelling — polling for a payload by its text.

The payload of a poll is given as a class or as a text. The text of a target is read as a
type name, so its spelling does not matter. The text of a payload is compared with the
canonical text of the declaration instead (`find_text_iff`), and any other spelling is not
found.

* `Table.poll_by_text_iff_canonical`: by its canonical text a declared payload is found
  where its class finds it, and both polls are the same operation. By another text that is
  read as the same type it is not found, and no producer is called.
* `Table.poll_by_other_spelling_refused`: a run with such a text.
-/
import MachineSpec.Proofs.Diagnosis
import MachineSpec.Proofs.Polling

namespace MachineSpec

/-! ## 1. Spellings -/

/-- The text is one of the ways to write the type name. -/
def Reference.Spelling (reference : Reference) (text : String) : Prop :=
  ∃ read, Reference.ofText text = .ok read ∧ read.type = reference.type

/-- A text is a spelling of one type at most. -/
theorem Reference.Spelling.type_eq {first second : Reference} {text : String}
    (spells : first.Spelling text) (spells' : second.Spelling text) : first.type = second.type := by
  obtain ⟨read, known, same⟩ := spells
  obtain ⟨read', known', same'⟩ := spells'
  cases known.symm.trans known'
  rw [← same, ← same']

/-- Messages that were read, for a machine that was there before or in a document. -/
inductive Messages.WereRead (messages : Messages) : Prop where
  | alone {machine : Machine} {source : String}
      (read : Messages.ofText machine source = .ok messages) : WereRead messages
  | document {source : String} {document : Document}
      (read : Document.ofText source = .ok document) (mem : messages ∈ document.messages) :
      WereRead messages

/-- The declarations of a document are parts of it. -/
theorem Document.Phrase.parts {phrase : List Token} {declarations : List Declaration}
    (fits : Document.Phrase phrase declarations) :
    ∀ declared ∈ declarations, ∃ part, part ⊆ phrase ∧ declared.Phrase part := by
  induction fits with
  | nil => exact nofun
  | cons declares more ih =>
    intro declared mem
    rcases List.mem_cons.mp mem with rfl | later
    · exact ⟨_, List.subset_append_left _ _, declares⟩
    · obtain ⟨part, inside, fits⟩ := ih declared later
      exact ⟨part, fun token mem => List.mem_append_right _ (inside mem), fits⟩

/-- Behind messages that were read for a machine there is their declaration. -/
theorem Messages.declared_of_ofText {machine : Machine} {source : String} {messages : Messages}
    (accepted : Messages.ofText machine source = .ok messages) :
    ∃ decl, MessagesDecl.ofText source = .ok decl ∧ messages = ⟨decl.name, decl.messages⟩ := by
  unfold Messages.ofText at accepted
  split at accepted
  · cases accepted
  · rename_i decl read
    cases made : Messages.ofDecl machine decl with
    | error offence =>
      rw [made] at accepted
      cases accepted
    | ok checked =>
      rw [made] at accepted
      cases accepted
      exact ⟨decl, read, (Messages.suits_of_ofDecl made).2⟩

/-- The tokens of their declaration were written in the text. -/
theorem Messages.WereRead.phrase {messages : Messages} (read : messages.WereRead) :
    ∃ (decl : MessagesDecl) (phrase : List Token), decl.Phrase phrase ∧
      (∀ token ∈ phrase, token.Spelled) ∧ messages = ⟨decl.name, decl.messages⟩ := by
  cases read with
  | alone read =>
    obtain ⟨decl, parsed, same⟩ := Messages.declared_of_ofText read
    obtain ⟨tokens, scanned, fits⟩ := MessagesDecl.ofText_eq_ok_iff.mp parsed
    exact ⟨decl, _, fits, spelled_of_tokenize scanned, same⟩
  | @document source document read mem =>
    rw [Document.ofText] at read
    rcases whole : Document.read source with ⟨found, _ | rejection⟩ <;> rw [whole] at read <;>
      cases read
    obtain ⟨tokens, declarations, scanned, fits, declares⟩ := Document.read_iff.mp whole
    rw [Document.messages_eq declares] at mem
    obtain ⟨declared, listed, same⟩ := List.mem_filterMap.mp mem
    obtain ⟨part, inside, fits⟩ := fits.parts declared listed
    cases fits with
    | intro named means opens body closes ends =>
      cases body with
      | machine | fallibleMachine => cases same
      | messages body =>
        refine ⟨_, _, body, fun token mem => ?_, (Option.some.inj same).symm⟩
        exact spelled_of_tokenize scanned token (inside (by simp [mem]))

/-- What a message carries is spelled by its own text. -/
theorem Messages.WereRead.spelling {messages : Messages} (read : messages.WereRead)
    {message : Message} (mem : message ∈ messages.messages) :
    message.payload.Spelling message.payload.text := by
  obtain ⟨decl, phrase, fits, spelled, rfl⟩ := read.phrase
  have mentioned : message.payload ∈ decl.references :=
    List.mem_flatMap.mpr ⟨message, mem, .head _⟩
  obtain ⟨part, inside, fits⟩ := fits.references _ mentioned
  exact fits.reads_again fun token mem => spelled token (inside mem)

/-! ## 2. Finding channels by texts -/

namespace Channels

variable {bindings : Bindings} {table : Table} {messages : Messages} {channels extended : Channels}
  {direction : Direction} {tag text : String} {channel : Channel} {payload : Designator}

/-- Messages are attached to states that the table has. -/
theorem knows_target {declared : List Message} :
    ∀ {channels : Channels}, addMessages bindings table channels declared = .ok extended →
      ∀ message ∈ declared, table.Knows message.target.tag := by
  induction declared with
  | nil => exact fun _ => nofun
  | cons first rest ih =>
    intro channels h message mem
    simp only [addMessages, Except.bind_eq_ok_iff] at h
    obtain ⟨kind, -, h⟩ := h
    split at h
    · cases h
    · rename_i block found
      simp only [Except.bind_eq_ok_iff] at h
      obtain ⟨-, -, more, -, h⟩ := h
      rcases List.mem_cons.mp mem with rfl | later
      · exact ⟨block, found⟩
      · exact ih h message later

/-- For a tag there is one channel to select, if any. -/
theorem select_tag (known : table.Knows tag) :
    channels.select table direction (.text tag) payload =
      (find (channels.along direction) tag payload).elim
        (.error (.noChannel table.name direction payload.name tag))
        fun channel => .ok [(tag, channel)] := by
  cases found : find (channels.along direction) tag payload <;>
    simp [select, Table.tagsFor_tag known, found, Designator.name]

section

variable (read : messages.WereRead) (attached : ofMessages bindings table messages = .ok channels)
include read attached

omit read in
/-- A message whose payload is bound has a channel. -/
theorem exists_of_bound {message : Message} {kind : Class} (declared : message ∈ messages.messages)
    (bound : bindings.resolveClass .payload message.payload.type = .ok kind) :
    ∃ channel ∈ channels.along message.direction,
      channel.message = message ∧ channel.kind = kind := by
  refine ⟨⟨message, kind, ?_⟩, (along_iff attached).mpr ⟨declared, rfl, bound, ?_⟩, rfl, rfl⟩
  rotate_left
  · dsimp only
    rfl

/-- The text of the payload tells the channels of a state apart as well as its class does. -/
theorem eq_of_text {first second : Channel} (mem : first ∈ channels.along direction)
    (mem' : second ∈ channels.along direction) (tags : first.tag = second.tag)
    (texts : first.message.payload.text = second.message.payload.text) : first = second := by
  have declared := (along_iff attached).mp mem
  have declared' := (along_iff attached).mp mem'
  have type : first.message.payload.type = second.message.payload.type :=
    (read.spelling declared.message).type_eq (texts ▸ read.spelling declared'.message)
  have kind : first.kind = second.kind :=
    Except.ok.inj (declared.kind.symm.trans (type ▸ declared'.kind))
  exact distinct_along attached direction first mem second mem' tags (congrArg Class.id kind)

/-- A text finds the channel whose payload is printed so. -/
theorem find_text_iff : find (channels.along direction) tag (.text text) = some channel ↔
    channel ∈ channels.along direction ∧ channel.tag = tag ∧
      channel.message.payload.text = text := by
  constructor
  · exact suits_of_find
  · rintro ⟨mem, here, printed⟩
    cases found : find (channels.along direction) tag (.text text) with
    | none => exact absurd ⟨channel, mem, here, printed⟩ (find_eq_none_iff.mp found)
    | some other =>
      obtain ⟨mem', here', printed'⟩ := suits_of_find found
      rw [eq_of_text read attached mem' mem (here'.trans here.symm) (printed'.trans printed.symm)]

/-- A spelling that is not the canonical one finds no channel. -/
theorem find_misspelled {payload : Reference} (spells : payload.Spelling text)
    (other : text ≠ payload.text) :
    find (channels.along direction) tag (.text text) = none := by
  rw [find_eq_none_iff]
  rintro ⟨channel, mem', -, printed⟩
  have printed : channel.message.payload.text = text := printed
  have declared := (along_iff attached).mp mem'
  have type : channel.message.payload.type = payload.type :=
    (printed ▸ read.spelling declared.message).type_eq spells
  exact other (printed.symm.trans (congrArg TypeName.text type))

end

end Channels

namespace Table

open Operation Dialogue Channels

variable {table : Table} {bindings : Bindings} {messages : Messages} {channels : Channels}
  {target payload : Designator} {message : Message} {kind : Class}

/-! ## 3. Main theorem -/

/-- What is polled is chosen by the channel that was selected, and by nothing else. -/
theorem poll_eq_of_select {payload' : Designator}
    (same : channels.select table .poll target payload = channels.select table .poll target payload') :
    table.poll (some channels) target payload = table.poll (some channels) target payload' := by
  simp only [poll_some, polled_eq, chosen, same]

/-- If the lookup failed, no request is made but for the pending entry. -/
theorem poll_eq_of_error {error : Error}
    (none : channels.select table .poll target payload = .error error) :
    table.poll (some channels) target payload =
      table.enterPending >>= fun _ => refuse error := by
  rw [poll_some]
  congr 1
  funext elsewhere
  rw [polled_eq, chosen, none]
  rfl

/-- A payload that is declared to be polled from a state is found there by its class and by its
    canonical text, and the two polls are equal. By any other text that is read as the same type it
    is not found, and the poll fails as undeclared. -/
theorem poll_by_text_iff_canonical (read : messages.WereRead)
    (attached : Channels.ofMessages bindings table messages = .ok channels)
    (declared : message ∈ messages.messages) (way : message.direction = .poll)
    (bound : bindings.resolveClass .payload message.payload.type = .ok kind) :
    (∃ channel, channel.message = message ∧ channel.kind = kind ∧
      ∀ payload, payload = .cls kind ∨ payload = .text message.payload.text →
        channels.select table .poll (.text message.target.tag) payload =
          .ok [(message.target.tag, channel)]) ∧
    table.poll (some channels) (.text message.target.tag) (.text message.payload.text) =
      table.poll (some channels) (.text message.target.tag) (.cls kind) ∧
    ∀ text, message.payload.Spelling text → text ≠ message.payload.text →
      table.poll (some channels) (.text message.target.tag) (.text text) =
        table.enterPending >>= fun _ =>
          refuse (.noChannel table.name .poll text message.target.tag) := by
  have known : table.Knows message.target.tag := knows_target attached message declared
  obtain ⟨channel, mem, rfl, rfl⟩ := exists_of_bound attached declared bound
  rw [way] at mem
  have byClass : find (channels.along .poll) channel.message.target.tag (.cls channel.kind) =
      some channel :=
    (find_cls_iff (distinct_along attached .poll)).mpr
      (nearest_of_own mem rfl (beq_self_eq_true channel.kind.id))
  have byText : find (channels.along .poll) channel.message.target.tag
      (.text channel.message.payload.text) = some channel :=
    (find_text_iff read attached).mpr ⟨mem, rfl, rfl⟩
  have selected : ∀ payload, payload = .cls channel.kind ∨
      payload = .text channel.message.payload.text →
        channels.select table .poll (.text channel.message.target.tag) payload =
          .ok [(channel.message.target.tag, channel)] := by
    rintro _ (rfl | rfl)
    · rw [select_tag known, byClass]
      rfl
    · rw [select_tag known, byText]
      rfl
  refine ⟨⟨channel, rfl, rfl, selected⟩, poll_eq_of_select ?_, fun text spells other => ?_⟩
  · rw [selected _ (.inr rfl), selected _ (.inl rfl)]
  · refine poll_eq_of_error ?_
    rw [select_tag known, find_misspelled read attached spells other]
    rfl

/-! The lamp that is off tells of its solar power. -/

def solarMessage : Message :=
  ⟨⟨⟨"Power", ["Solar"]⟩, ⟨⟨7, 1, 8⟩, 5⟩⟩, .poll, ⟨⟨"Off", []⟩, ⟨⟨23, 1, 24⟩, 3⟩⟩, ⟨⟨7, 1, 8⟩, 5⟩⟩

def solarBindings : Bindings :=
  { Bindings.empty [("Power", .cls power)] with
    producers := [((Lamp.offBlock.tag, "Power<Solar>"), .routine 0)] }

def solarChannel : Channel := ⟨solarMessage, power, .callback (.routine 0)⟩

theorem solar_read : Messages.ofText Lamp.plain.machine "Lamp, [Power<Solar> <- Off]" =
    .ok ⟨"Lamp", [solarMessage]⟩ := eq_ok_of_toOption (by decide +kernel)

theorem solar_attached : Channels.ofMessages solarBindings Lamp.plain ⟨"Lamp", [solarMessage]⟩ =
    .ok ⟨[], [solarChannel]⟩ := rfl

theorem solar_spelling : solarMessage.payload.Spelling "Power< Solar >" :=
  ⟨⟨⟨"Power", ["Solar"]⟩, ⟨⟨0, 1, 1⟩, 5⟩⟩, eq_ok_of_toOption (by decide +kernel), rfl⟩

/-- The payload `Power<Solar>`, with and without blanks. -/
theorem poll_by_text_iff_canonical_lamp :
    Lamp.plain.poll (some ⟨[], [solarChannel]⟩) (.text "OffState") (.text "Power<Solar>") =
      Lamp.plain.poll (some ⟨[], [solarChannel]⟩) (.text "OffState") (.cls power) ∧
    Lamp.plain.poll (some ⟨[], [solarChannel]⟩) (.text "OffState") (.text "Power< Solar >") =
      Lamp.plain.enterPending >>= fun _ =>
        refuse (.noChannel "Lamp" .poll "Power< Solar >" "OffState") := by
  obtain ⟨-, same, refused⟩ := poll_by_text_iff_canonical (.alone solar_read) solar_attached
    (List.mem_singleton_self _) rfl (show _ = Except.ok power from rfl)
  exact ⟨same, refused _ solar_spelling (by decide)⟩

/-- A poll for the class bound to `Power<Solar>` returns a message; a poll for `Power< Solar >`
    fails as undeclared. -/
theorem poll_by_other_spelling_refused :
    Lamp.plain.Compiled ∧
    Messages.ofText Lamp.plain.machine "Lamp, [Power<Solar> <- Off]" =
      .ok ⟨"Lamp", [solarMessage]⟩ ∧
    Channels.ofMessages solarBindings Lamp.plain ⟨"Lamp", [solarMessage]⟩ =
      .ok ⟨[], [solarChannel]⟩ ∧
    solarBindings.resolveClass .payload solarMessage.payload.type = .ok power ∧
    solarMessage.payload.Spelling "Power< Solar >" ∧
    Lamp.plain.Reachable offSlot ∧
    Event.Occurs ⟨.poll (.text "OffState") (.cls power), some ⟨[], [solarChannel]⟩,
      [(.produce solarChannel (.object 0 Lamp.off), .ok (.object 1 power)),
        (Lamp.plain.pollLine solarChannel, .ok .null)], .ok (.message (.object 1 power))⟩
      Lamp.plain offSlot offSlot ∧
    Event.Occurs ⟨.poll (.text "OffState") (.text "Power< Solar >"), some ⟨[], [solarChannel]⟩,
      [], .error (.error (.noChannel "Lamp" .poll "Power< Solar >" "OffState"))⟩
      Lamp.plain offSlot offSlot :=
  ⟨Lamp.plain_compiled, solar_read, solar_attached, rfl, solar_spelling, offSlot_reachable,
    .ask (.ask (.done _ _)), .done _ _⟩

end Table

end MachineSpec
