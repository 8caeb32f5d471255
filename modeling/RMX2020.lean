import RMX2020.Machine.Run
import RMX2020.Machine.Log
import RMX2020.Machine.Writes
import RMX2020.Machine.CheckedWord
import RMX2020.Machine.Rewrite
import RMX2020.Machine.Pattern
import RMX2020.Machine.Terminated
import RMX2020.Machine.Trigger
import RMX2020.Machine.RunDry
import RMX2020.Python.Text
import RMX2020.Python.Sha1
import RMX2020.Python.Regex
import RMX2020.Fingerprint.Types
import RMX2020.Fingerprint.Callback
import RMX2020.Fingerprint.Adapter
import RMX2020.Fingerprint.System
import RMX2020.Fingerprint.History
import RMX2020.Fingerprint.Client
import RMX2020.Fingerprint.OwnReplies
import RMX2020.Fingerprint.Ledger
import RMX2020.Fingerprint.Cancel
import RMX2020.Fingerprint.Enumerate
import RMX2020.Fingerprint.Fallback
import RMX2020.Fingerprint.Transcript
import RMX2020.Doze.Utils
import RMX2020.Doze.Users
import RMX2020.Doze.PickupSensor
import RMX2020.Doze.DozeService
import RMX2020.Doze.DozeSettingsFragment
import RMX2020.Doze.System
import RMX2020.Doze.FollowsSettings
import RMX2020.Doze.Instances
import RMX2020.Doze.Listener
import RMX2020.Doze.Draining
import RMX2020.Doze.PickupEvents
import RMX2020.Doze.Gestures
import RMX2020.Lights.Brightness
import RMX2020.Lights.MaxBrightness
import RMX2020.Lights.LightsService
import RMX2020.Lights.Panel
import RMX2020.Touch.TouchscreenGesture
import RMX2020.Blobs.UpdateSha1sums
import RMX2020.Blobs.Passes
import RMX2020.Blobs.Errors
import RMX2020.Blobs.ListEntry
import RMX2020.Blobs.History
import RMX2020.Blobs.Document
import RMX2020.Blobs.ExtractFiles
import RMX2020.Blobs.Strings
import RMX2020.Init.Gadget
import RMX2020.Init.UsbRules
import RMX2020.Init.Usb
import RMX2020.Init.Platform
import RMX2020.Init.Orderly
import RMX2020.Init.Switch
import RMX2020.Init.AtBoot
import RMX2020.Init.Charger
import RMX2020.Libinit.Properties
import RMX2020.Libinit.Recovery
