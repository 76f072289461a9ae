import WiperDriver.Proofs.Bench.Handles
import WiperDriver.Proofs.Chip.Settings
import WiperDriver.Proofs.Wiper.Safety

/-!
# Terminal settings through many hands

A terminal setting can be asked for and changed with direct access to the registers or through any
wiper of its channel. Which way is taken makes no difference to the bus (`Sets.run_eq`,
`Looks.run_eq`), so a run of changes is a run of writes to the four settings of the chip
(`serve_sets`), and everything about it follows from how these behave.
-/

namespace WiperDriver

open Registers (Order)
open Wiper (Delivers)

variable {σ α : Type}

namespace Registers

/-- Whether a change of terminals writes depends on the word that it is given. -/
theorem run_setTerminals_of_delivers {responder : Bus.Responder σ} {state : σ}
    {setting : Terminals} {word : UInt16}
    (h : Delivers responder state setting.channel word) :
    let outcome := (setTerminals setting).run.run responder state
    if setting.applyTo word ≤ maxWord then
      outcome.calls = [(Order.read setting.channel.terminalAddress).call,
        (Order.write setting.channel.terminalAddress (setting.applyTo word)).call]
    else
      outcome.value = .error (.valueOutOfRange (setting.applyTo word)) ∧
        outcome.calls = [(Order.read setting.channel.terminalAddress).call] := by
  obtain ⟨reading, hanswer, hcount, rfl⟩ := h
  intro outcome
  have hrun : outcome = _ := congrArg (Dialogue.run responder · state) (run_setTerminals setting)
  rw [run_read_of_le setting.channel.terminalAddress_le] at hrun
  simp only [Dialogue.ask_bind, Dialogue.run_ask, hanswer, hcount, if_true, Dialogue.say_bind,
    Dialogue.done_bind] at hrun
  split
  · next hfits =>
    rw [run_write_of_le setting.channel.terminalAddress_le hfits] at hrun
    rw [hrun]
    rfl
  · next hwide =>
    rw [run_write_of_not_le hwide] at hrun
    rw [hrun]
    exact ⟨rfl, rfl⟩

end Registers

/-- A chip on a bus that never fails delivers what its register holds. -/
theorem delivers_respond (chip : Chip) (channel : Channel) :
    Delivers Chip.respond chip channel (chip.register channel.terminalSlot) := by
  have hcommand := Command.encode_of_le channel.terminalAddress_le .read
  refine ⟨_, rfl, rfl, ?_⟩
  rw [Chip.absorb_read hcommand]
  exact Chip.word_answer hcommand chip

namespace Bench

/-! ## The ways to a setting -/

/-- The setting that a job is to make. -/
def Job.setting? : Job → Option Terminals
  | .registers (.setTerminals setting) | .perform _ (.setTerminals setting) => some setting
  | _ => none

/-- The job makes a setting, by way of the registers or of a wiper of the channel. -/
inductive Sets (handles : Handles) (setting : Terminals) : Job → Prop
  | registers : Sets handles setting (.registers (.setTerminals setting))
  | wiper (number : Nat) (wiper : Wiper) (hwiper : handles number = some wiper)
    (hchannel : setting.channel = wiper.channel) :
    Sets handles setting (.perform number (.setTerminals setting))

/-- The job asks for the setting of a channel, in one of the same two ways. -/
inductive Looks (handles : Handles) (channel : Channel) : Job → Prop
  | registers : Looks handles channel (.registers (.terminals channel))
  | wiper (number : Nat) (wiper : Wiper) (hwiper : handles number = some wiper)
    (hchannel : channel = wiper.channel) : Looks handles channel (.perform number .terminals)

section

variable {handles : Handles} {setting : Terminals} {channel : Channel} {job : Job}

theorem Sets.setting?_eq (h : Sets handles setting job) : job.setting? = some setting := by
  cases h <;> rfl

/-- A register operation that wraps up what a program gives, as a job. -/
theorem Job.run_registers {operation : Registers.Operation} {program : Registers.Program α}
    {f : α → Registers.Result} (hperform : operation.perform = f <$> program) (handles : Handles) :
    (Job.registers operation).run handles =
      (fun result => (.ofRegisters (result.map f), handles)) <$> program.run := by
  show (fun result => (Answer.ofRegisters result, handles)) <$> operation.perform.run = _
  rw [hperform, ExceptT.run_map, Functor.map_map]

/-- A wiper operation that only passes on what a register operation gives does the same as a job. -/
theorem Job.run_perform_access {number : Nat} {wiper : Wiper} (h : handles number = some wiper)
    {operation : Wiper.Operation} {program : Wiper.Program α} {access : Registers.Program α}
    {f : α → Wiper.Result} (hperform : operation.perform = f <$> program)
    (haccess : program.run.run wiper = access.run >>= fun result => .done (result, wiper)) :
    (Job.perform number operation).run handles =
      (fun result => (.ofWiper (result.map f), handles)) <$> access.run := by
  rw [Job.run_perform h, hperform, Wiper.run_wrap, haccess, map_bind, map_bind, map_eq_pure_bind]
  simp only [Dialogue.map_done, Handles.set_self h]
  rfl

/-- Which way a setting is made shows neither on the bus nor in the answer. -/
theorem Sets.run_eq (h : Sets handles setting job) :
    job.run handles = (fun result : Except Error Unit =>
      (.ofRegisters (result.map fun _ => .done), handles)) <$>
        (Registers.setTerminals setting).run := by
  cases h with
  | registers => exact Job.run_registers rfl handles
  | wiper number wiper hwiper hchannel =>
    have haccess := Wiper.run_setTerminals setting wiper
    rw [if_pos hchannel] at haccess
    rw [Job.run_perform_access hwiper rfl haccess]
    congr 1
    funext result
    cases result <;> rfl

/-- Nor does which way one is asked for. -/
theorem Looks.run_eq (h : Looks handles channel job) :
    job.run handles = (fun result =>
      (.ofRegisters (result.map .terminals), handles)) <$> (Registers.terminals channel).run := by
  cases h with
  | registers => exact Job.run_registers rfl handles
  | wiper number wiper hwiper hchannel =>
    rw [hchannel, Job.run_perform_access hwiper rfl (Wiper.run_terminals wiper)]
    congr 1
    funext result
    cases result <;> rfl

/-! ## One job -/

/-- A job that makes a setting over any bus. -/
theorem Sets.serve_eq (h : Sets handles setting job) (responder : Bus.Responder σ) (state : σ) :
    let outcome := (Registers.setTerminals setting).run.run responder state
    let finished := job.serve responder handles state
    finished.entry.answer = .ofRegisters (outcome.value.map fun _ => .done) ∧
      finished.entry.calls = outcome.calls ∧ finished.handles = handles ∧
      finished.state = outcome.state := by
  intro outcome finished
  have hrun := congrArg (Dialogue.run responder · state) h.run_eq
  simp only [Dialogue.run_map] at hrun
  refine ⟨congrArg (·.value.1) hrun, ?_, congrArg (·.value.2) hrun, congrArg Outcome.state hrun⟩
  rw [Outcome.calls_eq]
  exact congrArg (·.exchanges.map Sigma.fst) hrun

/-- The entry of a job that has made its setting: the register was read once and written once. -/
def Entry.Merges (entry : Entry) : Prop :=
  ∃ setting, entry.job.setting? = some setting ∧ entry.answer = .done ∧
    ∃ word, entry.calls = [(Order.read setting.channel.terminalAddress).call,
      (Order.write setting.channel.terminalAddress word).call]

/-- **On a chip with narrow registers a setting is made** by one read and one write. -/
theorem Sets.serve_chip (h : Sets handles setting job) {chip : Chip} (hnarrow : chip.Narrow) :
    let finished := job.serve Chip.respond handles chip
    finished.entry.Merges ∧ finished.handles = handles ∧
      finished.state = chip.setTerminals setting := by
  have hfits : setting.applyTo (chip.register setting.channel.terminalSlot) ≤ Registers.maxWord :=
    (setting.applyTo_le_maxWord _).2 (hnarrow setting.channel)
  have hended := Registers.converse_setTerminals chip setting
  simp only [hfits, if_true] at hended
  obtain ⟨hvalue, hstate⟩ := Prod.mk.inj hended
  have hcalls := Registers.run_setTerminals_of_delivers
    (delivers_respond chip setting.channel)
  simp only [hfits, if_true] at hcalls
  obtain ⟨hanswer, hsame, hhandles, hafter⟩ := h.serve_eq Chip.respond chip
  refine ⟨⟨setting, h.setting?_eq, ?_, _, hsame.trans hcalls⟩, hhandles, hafter.trans hstate⟩
  rw [hanswer, hvalue]
  rfl

/-- On any chip a job is told the setting that it asks for. -/
theorem Looks.serve_chip (h : Looks handles channel job) (chip : Chip) :
    let finished := job.serve Chip.respond handles chip
    finished.entry.answer = .terminals (chip.settings channel) ∧ finished.handles = handles ∧
      finished.state = chip := by
  obtain ⟨hvalue, hstate⟩ := Prod.mk.inj (Registers.converse_terminals chip channel)
  have hrun := congrArg (Dialogue.run Chip.respond · chip) h.run_eq
  simp only [Dialogue.run_map, hvalue, hstate] at hrun
  exact ⟨congrArg (·.value.1) hrun, congrArg (·.value.2) hrun, congrArg Outcome.state hrun⟩

/-- A word that is too wide for the register is not written, whatever the bus. -/
theorem Sets.serve_of_wide (h : Sets handles setting job) {responder : Bus.Responder σ} {state : σ}
    {word : UInt16} (hword : Delivers responder state setting.channel word)
    (hwide : Registers.maxWord < word) :
    let finished := job.serve responder handles state
    finished.entry.answer = .refused (.valueOutOfRange (setting.applyTo word)) ∧
      finished.entry.calls = [(Order.read setting.channel.terminalAddress).call] := by
  have hnot : ¬ setting.applyTo word ≤ Registers.maxWord :=
    mt (setting.applyTo_le_maxWord word).1 (UInt16.not_le.2 hwide)
  have hrefused := Registers.run_setTerminals_of_delivers hword
  simp only [hnot, if_false] at hrefused
  obtain ⟨hanswer, hsame, -, -⟩ := h.serve_eq responder state
  refine ⟨?_, hsame.trans hrefused.2⟩
  rw [hanswer, hrefused.1]
  rfl

/-! ## Many jobs -/

/-- **A run of jobs is a run of writes to the settings.** -/
theorem serve_sets {jobs : List Job} (hjobs : ∀ job ∈ jobs, ∃ setting, Sets handles setting job)
    {chip : Chip} (hnarrow : chip.Narrow) :
    let ledger := serve Chip.respond jobs handles chip
    (∀ entry ∈ ledger.entries, entry.Merges) ∧ ledger.handles = handles ∧
      ledger.state = (jobs.filterMap Job.setting?).foldl Chip.setTerminals chip := by
  induction jobs generalizing chip with
  | nil => exact ⟨List.forall_mem_nil _, rfl, rfl⟩
  | cons job later ih =>
    obtain ⟨⟨setting, hsets⟩, hlater⟩ := List.forall_mem_cons.1 hjobs
    obtain ⟨hmerges, hhandles, hstate⟩ := hsets.serve_chip hnarrow
    have hnarrow' := (Chip.sameAround_setTerminals chip setting).narrow hnarrow
    have hrest := ih hlater hnarrow'
    simp only
    rw [serve_cons, hhandles, hstate, List.filterMap_cons_some hsets.setting?_eq]
    generalize serve Chip.respond later handles (chip.setTerminals setting) = rest at hrest
    obtain ⟨hall, hkept, hafter⟩ := hrest
    exact ⟨List.forall_mem_cons.2 ⟨hmerges, hall⟩, hkept, hafter⟩

/-- Two jobs are two writes. -/
theorem serve_two {other : Job} {setting' : Terminals} (h : Sets handles setting job)
    (h' : Sets handles setting' other) {chip : Chip} (hnarrow : chip.Narrow) :
    (serve Chip.respond [job, other] handles chip).state =
      (chip.setTerminals setting).setTerminals setting' := by
  have hjobs : ∀ made ∈ [job, other], ∃ setting, Sets handles setting made :=
    List.forall_mem_cons.2 ⟨⟨setting, h⟩, List.forall_mem_singleton.2 ⟨setting', h'⟩⟩
  obtain ⟨-, -, hstate⟩ := serve_sets hjobs hnarrow
  rw [hstate, List.filterMap_cons_some h.setting?_eq, List.filterMap_cons_some h'.setting?_eq]
  rfl

/-- A setting that is made as it was found leaves the chip as it was. -/
theorem serve_back {look back : Job} {chip : Chip} (hnarrow : chip.Narrow)
    (hlook : Looks handles channel look) (hback : Sets handles (chip.settings channel) back) :
    (serve Chip.respond [look, back] handles chip).state = chip := by
  obtain ⟨-, hhandles, hstate⟩ := hlook.serve_chip chip
  obtain ⟨-, -, hafter⟩ := hback.serve_chip hnarrow
  rw [serve_cons, hhandles, hstate]
  show (back.serve Chip.respond handles chip).state = chip
  rw [hafter, Chip.setTerminals_settings]

end

/-! ## The result -/

/-- **Terminal settings behave as four cells in two registers.** On a chip whose terminal control
registers hold any nine bits each, any sequence of changes, made through the registers or through
wipers of the channels, goes like this:

* every change succeeds, with one read and one write of its channel's register;
* in the end each channel has the last setting that was made for it, or the one that its nibble said
  at the start;
* the ninth bit of both registers, and every other register, is as it was;
* changes for two channels can be made in either order, and a setting that is written back as it was
  read changes nothing.

If a bus delivers a word that is too wide for the register, the change is refused for the word with
the setting merged in, and nothing is written. -/
theorem terminals_are_cells (handles : Handles) {chip : Chip} (hnarrow : chip.Narrow)
    {jobs : List Job} (hjobs : ∀ job ∈ jobs, ∃ setting, Sets handles setting job) :
    let ledger := serve Chip.respond jobs handles chip
    let written := jobs.filterMap Job.setting?
    (ledger.entries.map Entry.job = jobs ∧ ∀ entry ∈ ledger.entries, entry.Merges) ∧
    (∀ channel job, Looks handles channel job →
      (job.serve Chip.respond ledger.handles ledger.state).entry.answer =
        .terminals ((Chip.lastFor channel written).getD
          (.ofWord channel (chip.register channel.terminalSlot)))) ∧
    (∀ slot, slot ≠ 4 → slot ≠ 10 → ledger.state.register slot = chip.register slot) ∧
    (ledger.state.register 4 &&& 0x100 = chip.register 4 &&& 0x100 ∧
      ledger.state.register 10 &&& 0x100 = chip.register 10 &&& 0x100) ∧
    (∀ one other setting setting', Sets handles setting one → Sets handles setting' other →
      setting.channel ≠ setting'.channel →
        (serve Chip.respond [one, other] handles chip).state =
          (serve Chip.respond [other, one] handles chip).state) ∧
    (∀ channel look back found, Looks handles channel look →
      (look.serve Chip.respond handles chip).entry.answer = .terminals found →
        Sets handles found back → (serve Chip.respond [look, back] handles chip).state = chip) ∧
    ∀ {σ : Type} (responder : Bus.Responder σ) (state : σ) (job : Job) (setting : Terminals)
      (word : UInt16), Sets handles setting job → Delivers responder state setting.channel word →
        Registers.maxWord < word →
          let finished := job.serve responder handles state
          finished.entry.answer = .refused (.valueOutOfRange (setting.applyTo word)) ∧
            finished.entry.calls = [(Order.read setting.channel.terminalAddress).call] := by
  intro ledger written
  obtain ⟨hmerges, hhandles, hstate⟩ := serve_sets hjobs hnarrow
  have haround : Chip.SameAround ledger.state chip := by
    rw [hstate]
    exact Chip.sameAround_foldl written chip
  refine ⟨⟨map_job_entries _ jobs handles chip, hmerges⟩, fun channel job hlooks => ?_,
    fun slot hfour hten => ?_, ⟨?_, ?_⟩,
    fun one other setting setting' hone hother hapart => ?_,
    fun channel look back found hlooks hfound hback => ?_,
    fun responder state job setting word hsets => hsets.serve_of_wide⟩
  · obtain ⟨hanswer, -, -⟩ := hlooks.serve_chip ledger.state
    rw [hhandles, hanswer, hstate, Chip.settings_foldl]
    rfl
  · refine haround.register slot fun channel => ?_
    cases channel with
    | a | b => exact hfour
    | c | d => exact hten
  · exact and_congr_of_part (haround.rest .a) (by decide)
  · exact and_congr_of_part (haround.rest .c) (by decide)
  · rw [serve_two hone hother hnarrow, serve_two hother hone hnarrow,
      Chip.setTerminals_comm hapart]
  · obtain ⟨hanswer, -, -⟩ := hlooks.serve_chip chip
    obtain rfl : chip.settings channel = found := Answer.terminals.inj (hanswer.symm.trans hfound)
    exact serve_back hnarrow hlooks hback

/-- Two channels of one register, one changed directly and one through a wiper: each has its own
setting in the end, and the ninth bit is still there. -/
theorem terminals_are_cells_shared :
    let chip : Chip := ⟨Chip.powerUp, 256⟩
    let handles : Handles := Handles.none.set 0 ⟨.mcp4661, .a, .volatileOnly, 0⟩
    let opened : Terminals := ⟨.a, true, false, true, true⟩
    let shut : Terminals := ⟨.b, false, false, false, false⟩
    let ledger := serve Chip.respond
      [.registers (.setTerminals shut), .perform 0 (.setTerminals opened)] handles chip
    ((Job.perform 0 .terminals).serve Chip.respond ledger.handles ledger.state).entry.answer =
        .terminals opened ∧
      ((Job.registers (.terminals .b)).serve Chip.respond ledger.handles
        ledger.state).entry.answer = .terminals shut ∧
      ledger.state.register 4 &&& 0x100 = 0x100 := by
  intro chip handles opened shut ledger
  have hnarrow : chip.Narrow := by
    intro channel
    cases channel <;> decide
  have hjobs : ∀ job ∈ [Job.registers (.setTerminals shut), .perform 0 (.setTerminals opened)],
      ∃ setting, Sets handles setting job :=
    List.forall_mem_cons.2 ⟨⟨shut, .registers⟩,
      List.forall_mem_singleton.2 ⟨opened, .wiper 0 _ rfl rfl⟩⟩
  obtain ⟨-, hlooks, -, hninth, -⟩ := terminals_are_cells handles hnarrow hjobs
  exact ⟨hlooks .a _ (.wiper 0 _ rfl rfl), hlooks .b _ .registers, hninth.1.trans (by decide)⟩

end Bench

end WiperDriver
