import EntityDiagram.CommandLine.Arguments
import EntityDiagram.Proofs.Outcome
import Mathlib.Data.List.Perm.Basic
import Mathlib.Data.Set.List

/-!
# Arranged arguments

A command line may be written with every option as one argument, its value behind an equals sign.
Then an argument is read without regard to those around it, whatever its value looks like, and
arguments of different options may change places.  The main statement is `parseArguments_arranged`:
such a command is read back from its arguments in every order.
-/

namespace EntityDiagram.CommandLine

def Setting.spelling : Setting → Text
  | help => "--help"
  | input => "--input"
  | outputDir => "--output-dir"
  | entity => "--entity"
  | randomNames => "--random-names"
  | emitSource => "--emit-source"
  | executable => "--d2-bin"
  | debug => "--debug"

/-- An option and its value in one argument. -/
def assigned (option value : Text) : Text :=
  option ++ "=" ++ value

/-- An argument that is a whole option: with its value, or a switch. -/
inductive Argument where
  | assign (setting : Setting) (value : Text)
  | switch (setting : Setting)

namespace Argument

def text : Argument → Text
  | assign setting value => assigned setting.spelling value
  | switch setting => setting.spelling

def reading : Argument → Reading
  | assign setting value => .option setting false (some value)
  | switch setting => .option setting false none

/-- An option has a value if and only if it takes one, and asks for no help. -/
def Fits : Argument → Prop
  | assign setting _ => setting.takesValue = true
  | switch setting => setting.takesValue = false ∧ setting ≠ .help

end Argument

/-! ### Reading one argument -/

theorem equals_not_mem_spelling (setting : Setting) :
    CodePoint.char '=' ∉ setting.spelling := by
  cases setting <;> decide

theorem spelled?_spelling (setting : Setting) : spelled? setting.spelling = some setting := by
  cases setting <;> rfl

theorem isShort_spelling (setting : Setting) : isShort setting.spelling = false := by
  cases setting <;> rfl

theorem spelled?_of_equals {text : Text} (member : CodePoint.char '=' ∈ text) :
    spelled? text = none := by
  have without : ∀ entry ∈ spellings, CodePoint.char '=' ∉ entry.1 := by decide
  refine List.lookup_eq_none_iff.mpr fun entry inSpellings => ?_
  rw [bne_iff_ne]
  rintro rfl
  exact without entry inSpellings member

theorem splitEquals_assigned {front : Text} (absent : CodePoint.char '=' ∉ front) (value : Text) :
    splitEquals (assigned front value) = (front, some value) := by
  have before : ∀ c ∈ front, (c != CodePoint.char '=') = true := by
    intro c member
    rw [bne_iff_ne]
    rintro rfl
    exact absent member
  have joined : assigned front value = front ++ (CodePoint.char '=' :: value) := by
    rw [assigned, List.append_assoc]
    rfl
  rw [splitEquals, joined, List.dropWhile_append_of_pos before, List.takeWhile_append_of_pos before]
  simp

theorem readArgument_text (argument : Argument) :
    readArgument argument.text = .ok argument.reading := by
  cases argument with
  | switch setting =>
      rw [Argument.text, readArgument, spelled?_spelling, isShort_spelling]
      rfl
  | assign setting value =>
      have unspelled : spelled? (assigned setting.spelling value) = none :=
        spelled?_of_equals (by simp [assigned, Text.ofString, Text.ofChars])
      have dashed : ((assigned setting.spelling value).head? != some (.char '-') ||
          (assigned setting.spelling value).length == 1) = false := by
        cases setting <;> rfl
      rw [Argument.text, readArgument, unspelled]
      dsimp only
      rw [dashed, splitEquals_assigned (equals_not_mem_spelling setting)]
      dsimp only
      rw [spelled?_spelling, isShort_spelling]
      rfl

theorem Argument.text_injective : Function.Injective Argument.text := by
  intro first second same
  have sameReading : first.reading = second.reading := by
    have read := readArgument_text first
    rw [same, readArgument_text] at read
    exact (Except.ok.inj read).symm
  cases first <;> cases second <;> cases sameReading <;> rfl

theorem Argument.text_ne_divider (argument : Argument) : argument.text ≠ dividerText := by
  intro same
  have read := readArgument_text argument
  rw [same] at read
  cases argument <;> cases read

theorem readArguments_text (arguments : List Argument) :
    readArguments (arguments.map Argument.text) =
      .ok (arguments.map fun argument => (argument.text, argument.reading)) := by
  induction arguments with
  | nil => rfl
  | cons argument arguments ih =>
      rw [List.map_cons, readArguments, if_neg argument.text_ne_divider, readArgument_text, ih]
      rfl

/-! ### Carrying out -/

/-- What an argument does; one that does not fit does nothing. -/
def Progress.take (progress : Progress) : Argument → Progress
  | .assign setting value => progress.assign setting value
  | .switch setting => (progress.switch setting).toOption.getD progress

theorem Progress.switch_eq_take {setting : Setting} (notHelp : setting ≠ .help)
    (progress : Progress) :
    progress.switch setting = .ok (progress.take (.switch setting)) := by
  cases setting with
  | help => exact (notHelp rfl).elim
  | _ => rfl

theorem carryOut_cons {argument : Argument} (fits : argument.Fits) (progress : Progress)
    (rest : List (Text × Reading)) :
    carryOut progress ((argument.text, argument.reading) :: rest) =
      carryOut (progress.take argument) rest := by
  cases argument with
  | assign setting value =>
      have takesValue : setting.takesValue = true := fits
      rw [Argument.reading, carryOut, if_pos takesValue]
      rfl
  | switch setting =>
      obtain ⟨valueless, notHelp⟩ := fits
      rw [Argument.reading, carryOut.eq_def]
      dsimp only
      rw [valueless, progress.switch_eq_take notHelp]
      rfl

theorem carryOut_arguments {arguments : List Argument}
    (fit : ∀ argument ∈ arguments, argument.Fits) (progress : Progress) :
    carryOut progress (arguments.map fun argument => (argument.text, argument.reading)) =
      .ok (arguments.foldl Progress.take progress) := by
  induction arguments generalizing progress with
  | nil => rfl
  | cons argument arguments ih =>
      obtain ⟨fits, restFit⟩ := List.forall_mem_cons.mp fit
      rw [List.map_cons, carryOut_cons fits, ih restFit, List.foldl_cons]

/-! ### The order of the arguments -/

section

variable {σ α κ : Type} [DecidableEq κ] {step : σ → α → σ} {key : α → κ}

omit [DecidableEq κ] in
theorem foldl_move_front
    (commutes : ∀ state first second, key first ≠ key second →
      step (step state first) second = step (step state second) first)
    {before : List α} {item : α} (apart : ∀ other ∈ before, key other ≠ key item) (state : σ) :
    step (before.foldl step state) item = before.foldl step (step state item) := by
  induction before generalizing state with
  | nil => rfl
  | cons other before ih =>
      obtain ⟨otherApart, beforeApart⟩ := List.forall_mem_cons.mp apart
      rw [List.foldl_cons, List.foldl_cons, ih beforeApart, commutes _ _ _ otherApart]

/-- When steps of different keys commute, a run depends on the order of each key's items alone. -/
theorem foldl_eq_of_filter_eq
    (commutes : ∀ state first second, key first ≠ key second →
      step (step state first) second = step (step state second) first)
    {items others : List α}
    (same : ∀ k, items.filter (key · = k) = others.filter (key · = k)) (state : σ) :
    items.foldl step state = others.foldl step state := by
  induction items generalizing others state with
  | nil =>
      have none : others = [] := by
        refine List.eq_nil_iff_forall_not_mem.mpr fun other member => ?_
        have kept : other ∈ others.filter (key · = key other) := by simpa using member
        rw [← same] at kept
        cases kept
      rw [none]
  | cons item items ih =>
      -- The first item of this key among the others comes to the front.
      have found := same (key item)
      rw [List.filter_cons_of_pos (by simp)] at found
      obtain ⟨before, after, rfl, without, -, rest⟩ := List.filter_eq_cons_iff.mp found.symm
      have apart : ∀ other ∈ before, key other ≠ key item := by simpa using without
      rw [List.foldl_append, List.foldl_cons, List.foldl_cons, foldl_move_front commutes apart,
        ← List.foldl_append]
      refine ih (fun k => ?_) _
      rw [List.filter_append]
      by_cases own : key item = k
      · subst own
        rw [List.filter_eq_nil_iff.mpr without, rest, List.nil_append]
      · have removed := same k
        rwa [List.filter_cons_of_neg (by simpa using own), List.filter_append,
          List.filter_cons_of_neg (by simpa using own)] at removed

end

def Argument.setting : Argument → Setting
  | assign setting _ => setting
  | switch setting => setting

theorem Progress.take_comm (progress : Progress) (first second : Argument)
    (apart : first.setting ≠ second.setting) :
    (progress.take first).take second = (progress.take second).take first := by
  rcases first with ⟨_ | _⟩ | ⟨_ | _⟩ <;> rcases second with ⟨_ | _⟩ | ⟨_ | _⟩ <;>
    first | rfl | exact (apart rfl).elim

/-! ### Commands -/

/-- What a user may ask for. -/
structure Command where
  input : Text
  outputDir : Option Text
  entities : List Text
  executable : Option Text
  randomNames : Bool
  emitSource : Bool
  debug : Bool

namespace Command

def values (command : Command) : List Text :=
  command.input :: command.outputDir.toList ++ command.entities ++ command.executable.toList

def arguments (command : Command) : List Text :=
  List.flatten [
    [assigned "--input" command.input],
    (command.outputDir.map (assigned "--output-dir")).toList,
    command.entities.map (assigned "--entity"),
    (command.executable.map (assigned "--d2-bin")).toList,
    if command.randomNames then ["--random-names"] else [],
    if command.emitSource then ["--emit-source"] else [],
    if command.debug then ["--debug"] else []]

def request (command : Command) : Request where
  input := some (PathName.ofText command.input)
  outputDir := some (PathName.ofText (command.outputDir.getD "."))
  entities := command.entities.map .text
  randomNames := command.randomNames
  emitSource := command.emitSource
  executable := some (command.executable.getD standardExecutable)
  debug := command.debug

/-- What is written about a setting. -/
def written (command : Command) : Setting → List Argument
  | .help => []
  | .input => [.assign .input command.input]
  | .outputDir => (command.outputDir.map (Argument.assign .outputDir)).toList
  | .entity => command.entities.map (Argument.assign .entity)
  | .executable => (command.executable.map (Argument.assign .executable)).toList
  | .randomNames => if command.randomNames then [.switch .randomNames] else []
  | .emitSource => if command.emitSource then [.switch .emitSource] else []
  | .debug => if command.debug then [.switch .debug] else []

def allWritten (command : Command) : List Argument :=
  [Setting.input, .outputDir, .entity, .executable, .randomNames, .emitSource, .debug].flatMap
    command.written

variable {command : Command}

theorem of_mem_written {setting : Setting} {argument : Argument}
    (member : argument ∈ command.written setting) :
    argument.setting = setting ∧ argument.Fits := by
  cases setting with
  | help => cases member
  | input =>
      rw [List.mem_singleton.mp member]
      exact ⟨rfl, rfl⟩
  | outputDir | executable =>
      obtain ⟨value, -, rfl⟩ := Option.map_eq_some_iff.mp (Option.mem_toList.mp member)
      exact ⟨rfl, rfl⟩
  | entity =>
      obtain ⟨value, -, rfl⟩ := List.mem_map.mp member
      exact ⟨rfl, rfl⟩
  | randomNames | emitSource | debug =>
      rw [written, List.mem_ite_nil_right] at member
      rw [List.mem_singleton.mp member.2]
      exact ⟨rfl, rfl, nofun⟩

theorem fits_of_mem_allWritten {argument : Argument} (member : argument ∈ command.allWritten) :
    argument.Fits := by
  obtain ⟨setting, -, member⟩ := List.mem_flatMap.mp member
  exact (of_mem_written member).2

theorem filter_written (setting other : Setting) :
    (command.written setting).filter (·.setting = other) =
      if setting = other then command.written setting else [] := by
  split
  · next same =>
      refine List.filter_eq_self.mpr fun argument member => ?_
      simpa [← same] using (of_mem_written member).1
  · next apart =>
      refine List.filter_eq_nil_iff.mpr fun argument member => ?_
      simpa [(of_mem_written member).1] using apart

theorem filter_allWritten (setting : Setting) :
    command.allWritten.filter (·.setting = setting) = command.written setting := by
  rw [allWritten, List.filter_flatMap]
  simp only [filter_written]
  cases setting <;> simp [written]

theorem written_eq_toList (command : Command) {setting : Setting} (single : setting ≠ .entity) :
    ∃ argument : Option Argument, command.written setting = argument.toList := by
  cases setting with
  | entity => exact (single rfl).elim
  | help => exact ⟨none, rfl⟩
  | input => exact ⟨some _, rfl⟩
  | outputDir | executable => exact ⟨_, rfl⟩
  | randomNames | emitSource | debug =>
      rw [written]
      split
      · exact ⟨some _, rfl⟩
      · exact ⟨none, rfl⟩

theorem map_text_entities (names : List Text) :
    (names.map (Argument.assign .entity)).map Argument.text =
      names.map (assigned "--entity") := by
  rw [List.map_map]
  rfl

theorem map_text_allWritten : command.allWritten.map Argument.text = command.arguments := by
  have options (value : Option Text) (setting : Setting) :
      (value.map (Argument.assign setting)).toList.map Argument.text =
        (value.map (assigned setting.spelling)).toList := by
    cases value <;> rfl
  have switches (set : Bool) (setting : Setting) :
      (if set then [Argument.switch setting] else []).map Argument.text =
        if set then [setting.spelling] else [] := by
    cases set <;> rfl
  simp only [allWritten, written, arguments, List.flatMap_cons, List.flatMap_nil, List.map_append,
    options, map_text_entities, switches]
  rfl

theorem foldl_take_entities {names : List Text} (valued : dividerText ∉ names)
    (progress : Progress) :
    (names.map (Argument.assign .entity)).foldl Progress.take progress =
      { progress with
        request := { progress.request with
          entities := progress.request.entities ++ names.map .text } } := by
  induction names generalizing progress with
  | nil => simp
  | cons name names ih =>
      obtain ⟨nameValued, namesValued⟩ := not_or.mp (List.mem_cons.not.mp valued)
      rw [List.map_cons, List.foldl_cons, ih namesValued]
      simp [Progress.take, Progress.assign, optionValue, Ne.symm nameValued, requestedName]

theorem foldl_take_allWritten (valued : dividerText ∉ command.values) :
    command.allWritten.foldl Progress.take .start = ⟨command.request, true, []⟩ := by
  have given : ∀ value ∈ command.values, optionValue value = some value := by
    intro value member
    rw [optionValue, if_neg]
    rintro rfl
    exact valued member
  have entitiesValued : dividerText ∉ command.entities := fun member =>
    valued (by simp [values, member])
  obtain ⟨input, outputDir, entities, executable, randomNames, emitSource, debug⟩ := command
  simp only [values, List.cons_append, List.forall_mem_cons, List.forall_mem_append] at given
  obtain ⟨inputGiven, ⟨outputDirGiven, -⟩, executableGiven⟩ := given
  simp only [allWritten, written, List.flatMap_cons, List.flatMap_nil, List.foldl_append,
    foldl_take_entities entitiesValued]
  cases outputDir <;> cases executable <;> cases randomNames <;> cases emitSource <;>
    cases debug <;>
    simp_all [Progress.take, Progress.assign, Progress.switch, Except.toOption, Progress.start,
      request, Request.ofInput]

end Command

/-! ### Arrangements -/

variable {command : Command}

/-- Arranged, the arguments of every setting are what was written about it, in that order. -/
theorem filter_arranged {arranged : List Argument} (perm : arranged.Perm command.allWritten)
    (inOrder : (command.written .entity).Sublist arranged) (setting : Setting) :
    arranged.filter (·.setting = setting) = command.written setting := by
  have kept : (arranged.filter (·.setting = setting)).Perm (command.written setting) := by
    rw [← Command.filter_allWritten setting]
    exact perm.filter _
  by_cases entity : setting = .entity
  · subst entity
    have sublist := inOrder.filter (·.setting = Setting.entity)
    rw [Command.filter_written, if_pos rfl] at sublist
    exact (sublist.eq_of_length kept.length_eq.symm).symm
  · obtain ⟨argument, single⟩ := command.written_eq_toList entity
    rw [single] at kept ⊢
    cases argument with
    | none => exact kept.eq_nil
    | some argument => exact List.perm_singleton.mp kept

theorem exists_arranged {arguments : List Text} (perm : arguments.Perm command.arguments)
    (inOrder : (command.entities.map (assigned "--entity")).Sublist arguments) :
    ∃ arranged : List Argument, arranged.map Argument.text = arguments ∧
      arranged.Perm command.allWritten ∧ (command.written .entity).Sublist arranged := by
  rw [← Command.map_text_allWritten] at perm
  have options : arguments ∈ Set.range (List.map Argument.text) := by
    rw [Set.range_list_map]
    intro text member
    obtain ⟨argument, -, same⟩ := List.mem_map.mp (perm.mem_iff.mp member)
    exact ⟨argument, same⟩
  obtain ⟨arranged, rfl⟩ := options
  refine ⟨arranged, rfl, (List.map_perm_map_iff Argument.text_injective).mp perm, ?_⟩
  obtain ⟨entities, sublist, same⟩ := List.sublist_map_iff.mp inOrder
  rw [← Command.map_text_entities] at same
  rwa [Command.written, Argument.text_injective.list_map same]

/-- A command is read back from its arguments in every order, as long as no value is a double dash
and the entities stay in theirs. -/
theorem parseArguments_arranged {command : Command} (valued : dividerText ∉ command.values)
    {arguments : List Text} (perm : arguments.Perm command.arguments)
    (inOrder : (command.entities.map (assigned "--entity")).Sublist arguments) :
    parseArguments arguments = .ok command.request := by
  obtain ⟨arranged, rfl, permArranged, entitiesInOrder⟩ := exists_arranged perm inOrder
  have fit : ∀ argument ∈ arranged, argument.Fits := fun argument member =>
    Command.fits_of_mem_allWritten (permArranged.mem_iff.mp member)
  have taken : arranged.foldl Progress.take .start = ⟨command.request, true, []⟩ := by
    rw [← Command.foldl_take_allWritten valued]
    refine foldl_eq_of_filter_eq Progress.take_comm (fun setting => ?_) .start
    rw [filter_arranged permArranged entitiesInOrder, Command.filter_allWritten]
  rw [parseArguments, readArguments_text, bind_ok, carryOut_arguments fit, bind_ok, taken]
  rfl

/-- A command whose values are empty or look like options. -/
def Command.optionLike : Command where
  input := ""
  outputDir := some "-o x=y"
  entities := ["--debug", "", "--debug=1"]
  executable := some "--input=a"
  randomNames := true
  emitSource := false
  debug := true

theorem parseArguments_optionLike :
    dividerText ∉ Command.optionLike.values ∧
      parseArguments ["--debug", "--entity=--debug", "--d2-bin=--input=a", "--entity=",
        "--random-names", "--output-dir=-o x=y", "--input=", "--entity=--debug=1"] =
          .ok Command.optionLike.request := by
  have valued : dividerText ∉ Command.optionLike.values := by decide
  exact ⟨valued, parseArguments_arranged valued (by decide +kernel) (by decide)⟩

end EntityDiagram.CommandLine
