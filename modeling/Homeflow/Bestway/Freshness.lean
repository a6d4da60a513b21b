import Homeflow.Bestway.Timely

namespace Homeflow.Bestway

section Timely

variable {provider : BestwayProvider} {client after : Client}

theorem timely_step {label : Label} (h : Timely client) (hguard : NoneUnread client label)
    (hstep : client.step provider label = some after) : Timely after := by
  cases label with
  | arrive stream bytes =>
      simp only [Client.step] at hstep
      split at hstep
      · rename_i hopen
        obtain rfl := Option.some.inj hstep
        exact h.arrive bytes hopen.1
      · cases hstep
  | hangUp stream =>
      obtain rfl := Option.some.inj hstep
      exact h.aside ⟨rfl, rfl, rfl, rfl, rfl, rfl⟩ rfl rfl rfl
  | connected =>
      obtain rfl := Option.some.inj hstep
      exact h.connected
  | close =>
      obtain rfl := Option.some.inj hstep
      exact h.close
  | ask request =>
      simp only [Client.step] at hstep
      split at hstep
      · rename_i hmay
        obtain rfl := Option.some.inj hstep
        unfold Client.ask
        split
        · rename_i hfree
          refine h.begin fun hstatus hstream => hguard ?_
          simp [Client.writesStatus, hmay, hstatus, hstream, hfree.1, hfree.2]
        · exact h.aside ⟨rfl, rfl, rfl, rfl, rfl, rfl⟩ rfl rfl rfl
      · cases hstep
  | enter =>
      simp only [Client.step] at hstep
      split at hstep
      · rename_i request rest hinside hwaiting
        obtain rfl := Option.some.inj hstep
        have hleft : Timely { client with waiting := rest } :=
          h.aside ⟨rfl, rfl, rfl, rfl, rfl, rfl⟩ rfl rfl rfl
        refine hleft.begin fun hstatus hstream => hguard ?_
        have hconnected : client.stream.isSome = true := hstream
        simp [Client.writesStatus, hconnected, hinside, hwaiting, hstatus]
      · cases hstep
  | drained =>
      simp only [Client.step] at hstep
      split at hstep
      · rename_i exchange hinside
        split at hstep
        · obtain rfl := Option.some.inj hstep
          exact h.drained hinside
        · cases hstep
      · cases hstep
  | turn =>
      simp only [Client.step] at hstep
      split at hstep
      · rename_i exchange hinside
        split at hstep
        · rename_i hphase
          obtain rfl := Option.some.inj hstep
          exact h.turn hinside hphase
        · cases hstep
      · cases hstep
  | data =>
      simp only [Client.step] at hstep
      split at hstep
      · rename_i exchange hinside
        split at hstep
        · rename_i hphase
          exact h.data hinside hphase hstep
        · cases hstep
      · cases hstep
  | fail =>
      obtain rfl := Option.some.inj hstep
      exact h.left
  | abandon request =>
      obtain rfl := Option.some.inj hstep
      exact h.aside ⟨rfl, rfl, rfl, rfl, rfl, rfl⟩ rfl rfl rfl
  | execute id ref command =>
      simp only [Client.step] at hstep
      split at hstep
      · cases hstep
      · obtain rfl := Option.some.inj hstep
        refine h.become id fun answer hanswer => ?_
        rw [answers_start] at hanswer
        cases hanswer
  | readFails id error =>
      simp only [Client.step] at hstep
      split at hstep
      · rename_i execution hget
        split at hstep
        · obtain rfl := Option.some.inj hstep
          refine h.become id fun answer hanswer => ?_
          rcases answers_readEnds hanswer with hold | hnew
          · exact h.sound.held id execution hget answer hold
          · cases hnew
        · cases hstep
      · cases hstep
  | write id =>
      simp only [Client.step] at hstep
      split at hstep
      · rename_i execution hget
        split at hstep
        · obtain rfl := Option.some.inj hstep
          exact h.sendControl hget
        · cases hstep
      · cases hstep
  | sent id | sendFails id =>
      simp only [Client.step] at hstep
      split at hstep
      · rename_i execution hget
        split at hstep
        · obtain rfl := Option.some.inj hstep
          exact h.become id fun answer hanswer =>
            h.sound.held id _ hget answer (answers_sendEnds hanswer)
        · cases hstep
      · cases hstep
  | slept id =>
      simp only [Client.step] at hstep
      split at hstep
      · rename_i execution hget
        split at hstep
        · obtain rfl := Option.some.inj hstep
          exact h.become id fun answer hanswer => h.sound.held id _ hget answer hanswer
        · cases hstep
      · cases hstep
  | cancel id =>
      obtain rfl := Option.some.inj hstep
      refine h.apart ⟨rfl, rfl, rfl, rfl, rfl, rfl⟩ ⟨h.sound.trace, fun other held hheld => ?_⟩ ?_
      · exact h.sound.held other held (OrderedDict.get?_erase_eq_some.mp hheld).2
      · exact fun exchange hexchange => (Option.filter_eq_some_iff.mp hexchange).1

theorem timely_initial : Timely {} :=
  ⟨⟨nofun, fun _ _ hget => by simp at hget⟩, fun _ _ => rfl, nofun⟩

end Timely

def heated : DatapointProfile :=
  { AIRJET_19BYTE_PROFILE with trusted := true, writable := [.heater], writable_known := by decide }

def tub : BestwayProvider := { profile := heated }

def wire (command : Command) (payload : Bytes) : Bytes :=
  (Frame.encode { command := command.number, payload }).toOption.getD []

-- A status block with the heater off or on.
def heaterBlock (on : Bool) : Bytes := (List.replicate 19 0).set 1 (if on then 2 else 0)

def status (on : Bool) : Bytes := wire .statusResponse (heaterBlock on)

-- An exchange that is answered with what arrives while it reads.
def exchanged (request : Request) (bytes : Bytes) : List Label :=
  [.ask request, .drained, .turn, .arrive 0 bytes, .data, .turn]

def login : List Label :=
  .connected :: exchanged .passcode (wire .passcodeResponse (List.replicate 10 0x61)) ++
    exchanged .login (wire .loginResponse [])

def heaterOn : Label := .execute 0 airjetRef ⟨.setHeater, .onOff true⟩

-- The heater is switched on and confirmed, each block after its own request.
def confirmed : List Label :=
  login ++ exchanged (.status none) (status false) ++ [heaterOn] ++
    exchanged (.status (some 0)) (status false) ++ [.write 0, .sent 0] ++
    exchanged (.status (some 0)) (status true)

-- The controller sends its status twice in one chunk. The read of the next execute is
-- answered with the second one, which came before it asked, and writes that block back.
def repeated : List Label :=
  login ++ exchanged (.status none) (status false ++ status false) ++
    [heaterOn, .ask (.status (some 0)), .drained, .turn, .write 0]

end Homeflow.Bestway
