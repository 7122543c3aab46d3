import QuestVdWired.Host.Protocol
import QuestVdWired.Oracle.Asking
import QuestVdWired.Wire.Text

/-!
`AdbController`'s transactions over an arbitrary executor. A command's answer, the result of
a server recovery and the number of polls that fit before the deadline of a VPN check are
the oracle's. Durations are nanoseconds. Each text the source pushes onto a failure list is
a constructor of `Failure` that carries what the text interpolates.
-/

namespace QuestVdWired.Host
open Oracle Wire

def ANDROID_PACKAGE : String := "com.genymobile.gnirehtet"
def ANDROID_CONTROL_ACTIVITY : String := "com.genymobile.gnirehtet/.v4.AdbControlActivity"
def ANDROID_VPN_SERVICE : String := "com.genymobile.gnirehtet/.v4.VdLinkVpnService"
def ACTION_START_V4 : String := "com.genymobile.gnirehtet.v4.START"
def ACTION_STOP_V4 : String := "com.genymobile.gnirehtet.v4.STOP"
def VIRTUAL_DESKTOP_PACKAGE : String := "VirtualDesktop.Android"
def SOCKS_PORT : UInt16 := 31416
def CONTROL_PORT : UInt16 := 31417
def UDP_STREAM_PORT : UInt16 := 31418
def ANDROID_KEYCODE_WAKEUP : String := "224"

structure ReverseMapping where
  remote : UInt16
  «local» : UInt16
  deriving DecidableEq, Repr

def REVERSE_MAPPINGS : List ReverseMapping :=
  [⟨SOCKS_PORT, SOCKS_PORT⟩, ⟨UDP_STREAM_PORT, UDP_STREAM_PORT⟩, ⟨CONTROL_PORT, CONTROL_PORT⟩]

structure AdbOutput where
  status : Int
  stdout : String
  stderr : String
  deriving DecidableEq

def AdbOutput.isSuccess (output : AdbOutput) : Bool := output.status = 0

inductive AdbError
  | spawn (program source : String)
  | timeout (limit : Nat)
  | wait (source : String)
  | containment (source : String)
  | read (message : String)
  | commandFailed (status : Int) (stderr : String)
  | deviceNotReady (message : String)
  | vpnStillActive
  deriving DecidableEq

/-- The fraction of a `Duration` in `Debug`: `width` digits without their trailing zeros. -/
def fractionDigits (width fraction : Nat) : String :=
  let digits := (toString (10 ^ width + fraction)).toList.tail
  let digits := (digits.reverse.dropWhile (· = '0')).reverse
  if digits.isEmpty then "" else "." ++ String.ofList digits

/-- `Duration`'s `Debug`. -/
def durationDebug (nanos : Nat) : String :=
  if 1000000000 ≤ nanos then
    toString (nanos / 1000000000) ++ fractionDigits 9 (nanos % 1000000000) ++ "s"
  else if 1000000 ≤ nanos then
    toString (nanos / 1000000) ++ fractionDigits 6 (nanos % 1000000) ++ "ms"
  else if 1000 ≤ nanos then
    toString (nanos / 1000) ++ fractionDigits 3 (nanos % 1000) ++ "µs"
  else toString nanos ++ "ns"

def AdbError.display : AdbError → String
  | .spawn program source => "failed to start " ++ program ++ ": " ++ source
  | .timeout limit => "ADB command exceeded " ++ durationDebug limit
  | .wait source => "failed while waiting for ADB: " ++ source
  | .containment source => "failed to contain ADB subprocess tree: " ++ source
  | .read message => "failed to capture ADB output: " ++ message
  | .commandFailed status stderr => "ADB exited with " ++ toString status ++ ": " ++ stderr
  | .deviceNotReady message => message
  | .vpnStillActive => "Android still reports an active VPN after the stop deadline"

/-- One constructor for each text pushed onto `failures`. -/
inductive Failure
  | adb (error : AdbError)
  | missing (after : String) (mappings : List ReverseMapping)
  | mappingVerification (error : AdbError)
  | startRollback (error : AdbError)
  | startRollbackVerification (error : AdbError)
  | stopRequest (error : AdbError)
  | vpnClosure (error : AdbError)
  | forceStop (error : AdbError)
  | removeExited (remote : UInt16) (status : Int) (stderr : String)
  | removeFailed (remote : UInt16) (error : AdbError)
  | mappingsRemain (owned : List (List Char × List Char))
  | removalUnverified (error : AdbError)
  | refusedMapping (mapping : ReverseMapping)
  deriving DecidableEq

structure TransactionError where
  phase : String
  failures : List Failure
  deriving DecidableEq

def TransactionError.single (phase : String) (failure : AdbError) : TransactionError :=
  ⟨phase, [.adb failure]⟩

/-- What a controller asks of its surroundings. `polls` is the clock of `verify_vpn_closed`:
how many of its polls find the deadline still ahead. -/
inductive AdbQuery
  | execute (args : List String) (limit : Nat)
  | recoverServer (limit : Nat)
  | polls
  deriving DecidableEq

def AdbAnswer : AdbQuery → Type
  | .execute _ _ => Except AdbError AdbOutput
  | .recoverServer _ => Except AdbError Unit
  | .polls => Nat

abbrev Adb := Asking AdbQuery AdbAnswer
abbrev AdbCall := Exchange AdbQuery AdbAnswer

/-- The controller's deadlines; `stop_timeout` and `poll_interval` act through the clock. -/
structure AdbController where
  deviceTimeout : Nat
  commandTimeout : Nat
  mappingTimeout : Nat

structure StartReceipt where
  sessionId : SessionId
  allTraffic : Bool
  allowedPackage : String
  mappings : List ReverseMapping

def startIntentArgs (sessionId : SessionId) (allTraffic : Bool) : List String :=
  ["-d", "shell", "am", "start", "-n", ANDROID_CONTROL_ACTIVITY, "-a", ACTION_START_V4,
    "--es", "sessionId", sessionId.display, "--es", "vdPackage", VIRTUAL_DESKTOP_PACKAGE,
    "--ei", "socksPort", toString SOCKS_PORT, "--ei", "udpPort", toString UDP_STREAM_PORT,
    "--ei", "controlPort", toString CONTROL_PORT, "--ez", "allTraffic",
    if allTraffic then "true" else "false"]

def stopIntentArgs : List String :=
  ["-d", "shell", "am", "start", "-n", ANDROID_CONTROL_ACTIVITY, "-a", ACTION_STOP_V4]

def wakeArgs : List String := ["-d", "shell", "input", "keyevent", ANDROID_KEYCODE_WAKEUP]
def forceStopArgs : List String := ["-d", "shell", "am", "force-stop", ANDROID_PACKAGE]
def dumpsysArgs : List String :=
  ["-d", "shell", "dumpsys", "activity", "service", ANDROID_VPN_SERVICE]
def getStateArgs : List String := ["-d", "get-state"]
def reverseListArgs : List String := ["-d", "reverse", "--list"]
def dumpsysPowerArgs : List String := ["-d", "shell", "dumpsys", "power"]

def tcp (port : UInt16) : String := "tcp:" ++ toString port

def addMappingArgs (mapping : ReverseMapping) : List String :=
  ["-d", "reverse", tcp mapping.remote, tcp mapping.local]

def removeMappingArgs (mapping : ReverseMapping) : List String :=
  ["-d", "reverse", "--remove", tcp mapping.remote]

/-! Judgements on output. -/

def trimmed (text : String) : String := String.ofList (Text.trim text.toList)

def adbReportsMissingDevice (error : AdbError) : Bool :=
  let message := Text.toAsciiLowercase error.display.toList
  Text.contains message "no devices".toList || Text.contains message "no device".toList ||
    Text.contains message "device not found".toList

def deviceHelp (state : String) : String :=
  "No Quest 3 is available through USB (" ++ state ++ "). Connect and unlock the headset " ++
    "with a USB data cable, then accept the USB debugging prompt and try again."

def mappingWasAlreadyAbsent (output : AdbOutput) : Bool :=
  let message := Text.toAsciiLowercase (output.stdout ++ " " ++ output.stderr).toList
  ["cannot remove listener", "listener not found", "no such listener", "not found"].any
    fun marker => Text.contains message marker.toList

/-- The values of the `vpnFdOpen=` lines, in order. -/
def vpnFdValues (output : String) : List (List Char) :=
  (Text.lines output.toList).filterMap fun line =>
    Text.stripPrefix (Text.trim line) "vpnFdOpen=".toList

/-- One of them is `false` and none is anything else. -/
def vpnDescriptorExplicitlyClosed (output : String) : Bool :=
  (vpnFdValues output).all (· = "false".toList) && !(vpnFdValues output).isEmpty

/-- What `verify_vpn_closed` accepts. -/
def judgedClosed (output : String) : Bool :=
  let normalized := Text.toAsciiLowercase output.toList
  let processStopped := Text.contains normalized "pid=(not running)".toList &&
    !(Text.lines normalized).any fun line => Text.trim line = "vpnfdopen=true".toList
  let serviceAbsent := (Text.trim normalized).isEmpty ||
    Text.contains normalized "no services match".toList ||
    Text.contains normalized "no service records found".toList || processStopped
  serviceAbsent || vpnDescriptorExplicitlyClosed output

/-- The value of the last line with this key. -/
def lastValue (key output : String) : Option (List Char) :=
  ((Text.lines output.toList).filterMap fun line =>
    Text.stripPrefix (Text.trim line) key.toList).getLast?

/-- What the monitor reads off an `AndroidVpnStatus`: the screen is suspended and the state
degraded. -/
def statusSuspended (output : String) : Bool :=
  lastValue "screenSuspended=" output = some "true".toList &&
    (lastValue "gnirehtet.state=" output).map Text.toAsciiLowercase = some "degraded".toList

def parseWakefulness (output : String) : Option Bool :=
  ((Text.lines output.toList).findSome? fun line =>
    Text.stripPrefix (Text.trim line) "mWakefulness=".toList).map fun value =>
      Text.trim value = "Awake".toList

/-- Remote and local of the `tcp:` mappings among the lines of three fields. -/
def parseReverseList (output : String) : List (List Char × List Char) :=
  (Text.lines output.toList).filterMap fun line =>
    match Text.splitWhitespace line with
    | [_, remote, there] =>
        if "tcp:".toList.isPrefixOf remote && "tcp:".toList.isPrefixOf there then
          some (remote, there)
        else none
    | _ => none

/-- The product's mappings that a list does not show. -/
def missingMappings (output : String) : List ReverseMapping :=
  REVERSE_MAPPINGS.filter fun mapping =>
    !(parseReverseList output).any
      (· = ((tcp mapping.remote).toList, (tcp mapping.local).toList))

/-- The entries of a list that sit on one of the product's remotes. -/
def ownedMappings (output : String) : List (List Char × List Char) :=
  (parseReverseList output).filter fun entry =>
    REVERSE_MAPPINGS.any fun mapping => entry.1 = (tcp mapping.remote).toList

def AdbOutput.checked (output : AdbOutput) : Except AdbError AdbOutput :=
  if output.isSuccess then .ok output
  else .error (.commandFailed output.status (trimmed output.stderr))

def deviceReady (output : AdbOutput) : Except AdbError Unit :=
  let state := trimmed output.stdout
  if state = "device" then .ok ()
  else .error (.deviceNotReady (deviceHelp (if state = "" then "unknown" else state)))

/-- The last three arms of `require_device`. -/
def deviceFailure (error : AdbError) : AdbError :=
  if adbReportsMissingDevice error then .deviceNotReady (deviceHelp "not found")
  else
    match error with
    | .timeout _ => .deviceNotReady (deviceHelp "not responding")
    | error => error

namespace AdbController
variable (c : AdbController)

def execute (args : List String) (limit : Nat) : Adb (Except AdbError AdbOutput) :=
  Asking.ask (AdbQuery.execute args limit)

def recoverServer (limit : Nat) : Adb (Except AdbError Unit) :=
  Asking.ask (AdbQuery.recoverServer limit)

def polls : Adb Nat := Asking.ask AdbQuery.polls

def runCheckedWith (args : List String) (limit : Nat) : Adb (Except AdbError AdbOutput) := do
  return (← execute args limit).bind AdbOutput.checked

def runChecked (args : List String) : Adb (Except AdbError AdbOutput) :=
  runCheckedWith args c.commandTimeout

/-- Two attempts, the second only after a timeout and a server recovery. -/
def requireDevice : Adb (Except AdbError Unit) := do
  match ← runCheckedWith getStateArgs c.deviceTimeout with
  | .ok output => return deviceReady output
  | .error (.timeout _) =>
      match ← recoverServer c.deviceTimeout with
      | .error error => return .error error
      | .ok () =>
          match ← runCheckedWith getStateArgs c.deviceTimeout with
          | .ok output => return deviceReady output
          | .error error => return .error (deviceFailure error)
  | .error error => return .error (deviceFailure error)

def wakeAndroid : Adb (Except AdbError Unit) := do
  return (← c.runChecked wakeArgs).map fun _ => ()

def forceStopAndroid : Adb (Except AdbError Unit) := do
  return (← c.runChecked forceStopArgs).map fun _ => ()

def sendStartIntent (sessionId : SessionId) (allTraffic : Bool) : Adb (Except AdbError Unit) := do
  return (← c.runChecked (startIntentArgs sessionId allTraffic)).map fun _ => ()

def addMapping (mapping : ReverseMapping) : Adb (Except AdbError Unit) := do
  return (← runCheckedWith (addMappingArgs mapping) c.mappingTimeout).map fun _ => ()

/-- The mappings a fresh list lacks. -/
def mappingHealth : Adb (Except AdbError (List ReverseMapping)) := do
  return (← runCheckedWith reverseListArgs c.mappingTimeout).map fun output =>
    missingMappings output.stdout

def deviceState : Adb (Except AdbError String) := do
  return (← runCheckedWith getStateArgs c.mappingTimeout).map fun output => trimmed output.stdout

def androidStatusQuick : Adb (Except AdbError Bool) := do
  return (← runCheckedWith dumpsysArgs (min c.commandTimeout 1000000000)).map fun output =>
    statusSuspended output.stdout

def headsetAwakeQuick : Adb (Except AdbError (Option Bool)) := do
  return (← runCheckedWith dumpsysPowerArgs (min c.commandTimeout 2000000000)).map fun output =>
    parseWakefulness output.stdout

/-- One poll of `verify_vpn_closed`, up to its verdict on the output. -/
def pollVpn : Adb (Except AdbError Bool) := do
  return (← c.runChecked dumpsysArgs).map fun output => judgedClosed output.stdout

/-- Its loop, with `ahead` polls before the deadline. -/
def verifyLoop : Nat → Adb (Except AdbError Unit)
  | 0 => do
      match ← c.pollVpn with
      | .error error => return .error error
      | .ok true => return .ok ()
      | .ok false => return .error .vpnStillActive
  | ahead + 1 => do
      match ← c.pollVpn with
      | .error error => return .error error
      | .ok true => return .ok ()
      | .ok false => verifyLoop ahead

def verifyVpnClosed : Adb (Except AdbError Unit) := do
  c.verifyLoop (← polls)

/-- The failures of one removal. -/
def removeMapping (mapping : ReverseMapping) : Adb (List Failure) := do
  match ← execute (removeMappingArgs mapping) c.mappingTimeout with
  | .ok output =>
      if output.isSuccess || mappingWasAlreadyAbsent output then return []
      else return [.removeExited mapping.remote output.status (trimmed output.stderr)]
  | .error error => return [.removeFailed mapping.remote error]

def removeMappings : List ReverseMapping → List Failure → Adb (List Failure)
  | [], failures => return failures
  | mapping :: rest, failures => do
      removeMappings rest (failures ++ (← c.removeMapping mapping))

/-- The failures of the list that closes a removal. -/
def verifyRemoval : Adb (List Failure) := do
  match ← runCheckedWith reverseListArgs c.mappingTimeout with
  | .ok output =>
      if (ownedMappings output.stdout).isEmpty then return []
      else return [.mappingsRemain (ownedMappings output.stdout)]
  | .error error => return [.removalUnverified error]

def removeAllMappings (failures : List Failure) : Adb (List Failure) := do
  let failures ← c.removeMappings REVERSE_MAPPINGS failures
  return failures ++ (← c.verifyRemoval)

/-- The common end of the stop transactions. -/
def finish (phase : String) (failures : List Failure) : Except TransactionError Unit :=
  if failures.isEmpty then .ok () else .error ⟨phase, failures⟩

def stopAndroidSession (phase : String) : Adb (Except TransactionError Unit) := do
  let request ← c.runChecked stopIntentArgs
  let failures : List Failure := match ← c.verifyVpnClosed, request with
    | .ok (), _ => []
    | .error error, .error requestError => [.stopRequest requestError, .vpnClosure error]
    | .error error, .ok _ => [.vpnClosure error]
  return finish phase (← c.removeAllMappings failures)

def forceStopAndroidSession (phase : String) : Adb (Except TransactionError Unit) := do
  let failures : List Failure := match ← c.forceStopAndroid with
    | .ok () => []
    | .error error => [.forceStop error]
  let failures := match ← c.verifyVpnClosed with
    | .ok () => failures
    | .error error => failures ++ [.vpnClosure error]
  return finish phase (← c.removeAllMappings failures)

def quiesceAndroidSession : Adb (Except TransactionError Unit) := do
  match ← c.stopAndroidSession "start_quiesce" with
  | .ok () => return .ok ()
  | .error graceful =>
      match ← c.forceStopAndroidSession "start_force_quiesce" with
      | .ok () => return .ok ()
      | .error forced => return .error ⟨forced.phase, graceful.failures ++ forced.failures⟩

def stop : Adb (Except TransactionError Unit) := do
  match ← c.requireDevice with
  | .error failure => return .error (.single "stop" failure)
  | .ok () =>
      match ← c.wakeAndroid with
      | .error failure => return .error (.single "device_wake" failure)
      | .ok () => c.stopAndroidSession "stop"

def stopUnresponsive : Adb (Except TransactionError Unit) := do
  match ← c.requireDevice with
  | .error failure => return .error (.single "unresponsive_stop" failure)
  | .ok () => c.forceStopAndroidSession "unresponsive_stop"

def finishControlStop : Adb (Except TransactionError Unit) := do
  let failures : List Failure := match ← c.verifyVpnClosed with
    | .ok () => []
    | .error error => [.vpnClosure error]
  return finish "control_stop" (← c.removeAllMappings failures)

/-- The add loop of `start` and `reinstall_mappings`: it breaks at the first failure. -/
def addMappings : List ReverseMapping → Adb (List Failure)
  | [] => return []
  | mapping :: rest => do
      match ← c.addMapping mapping with
      | .ok () => addMappings rest
      | .error error => return [.adb error]

/-- The list after the adds, and what it reports. -/
def verifyMappings (after : String) : Adb (List Failure) := do
  match ← c.mappingHealth with
  | .ok [] => return []
  | .ok missing => return [.missing after missing]
  | .error error => return [.mappingVerification error]

/-- Undo the adds and report. -/
def rollBack (phase : String) (failures : List Failure) : Adb TransactionError := do
  return ⟨phase, ← c.removeAllMappings failures⟩

/-- `start` from its add loop on. -/
def installAndStart (sessionId : SessionId) (allTraffic : Bool) :
    Adb (Except TransactionError StartReceipt) := do
  let failures ← c.addMappings REVERSE_MAPPINGS
  if ¬ failures.isEmpty then return .error (← c.rollBack "reverse_setup" failures)
  else
    let failures ← c.verifyMappings "add"
    if ¬ failures.isEmpty then return .error (← c.rollBack "reverse_verify" failures)
    else
      match ← c.sendStartIntent sessionId allTraffic with
      | .ok () => return .ok ⟨sessionId, allTraffic, VIRTUAL_DESKTOP_PACKAGE, REVERSE_MAPPINGS⟩
      | .error error =>
          let failures : List Failure := match ← c.runChecked stopIntentArgs with
            | .ok _ => [.adb error]
            | .error rollback => [.adb error, .startRollback rollback]
          let failures := match ← c.verifyVpnClosed with
            | .ok () => failures
            | .error verification => failures ++ [.startRollbackVerification verification]
          return .error (← c.rollBack "android_start" failures)

def start (sessionId : SessionId) (allTraffic : Bool) :
    Adb (Except TransactionError StartReceipt) := do
  match ← c.requireDevice with
  | .error failure => return .error (.single "device_check" failure)
  | .ok () =>
      match ← c.wakeAndroid with
      | .error failure => return .error (.single "device_wake" failure)
      | .ok () =>
          match ← c.quiesceAndroidSession with
          | .error error => return .error error
          | .ok () => c.installAndStart sessionId allTraffic

/-- The adds of `reinstall_mappings` and, when none failed, the list behind them. -/
def installMappings : Adb (List Failure) := do
  let failures ← c.addMappings REVERSE_MAPPINGS
  if failures.isEmpty then c.verifyMappings "reinstall" else return failures

def reinstallMappings : Adb (Except TransactionError Unit) := do
  let failures ← c.removeAllMappings []
  if ¬ failures.isEmpty then return .error ⟨"resume_reverse_remove", failures⟩
  else
    let failures ← c.installMappings
    if failures.isEmpty then return .ok ()
    else return .error (← c.rollBack "resume_reverse_setup" failures)

/-- The add loop of `repair_missing_mappings`: it refuses what is not the product's and
goes on after a failure. -/
def repairMappingsFrom : List ReverseMapping → List Failure → Adb (List Failure)
  | [], failures => return failures
  | mapping :: rest, failures =>
      if mapping ∈ REVERSE_MAPPINGS then do
        match ← c.addMapping mapping with
        | .ok () => repairMappingsFrom rest failures
        | .error error => repairMappingsFrom rest (failures ++ [.adb error])
      else repairMappingsFrom rest (failures ++ [.refusedMapping mapping])

def repairMissingMappings (missing : List ReverseMapping) : Adb (Except TransactionError Unit) := do
  let failures ← c.repairMappingsFrom missing []
  let failures := failures ++ (← c.verifyMappings "repair")
  return finish "repair" failures

def repairMappings : Adb (Except TransactionError Unit) := do
  match ← c.mappingHealth with
  | .error failure => return .error (.single "repair_probe" failure)
  | .ok missing => c.repairMissingMappings missing

end AdbController

end QuestVdWired.Host
