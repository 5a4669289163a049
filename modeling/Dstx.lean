import Dstx.Lib.Run
import Dstx.Lib.Settle
import Dstx.Lib.WriteBehind
import Dstx.Lib.Ring
import Dstx.Lib.Fs
import Dstx.Lib.Mailbox
import Dstx.Lib.RobustMutex
import Dstx.Lib.CText
import Dstx.Lib.Utf8
import Dstx.Lib.Lru
import Dstx.Lib.ExitCode
import Dstx.Lib.Patch
import Dstx.Lib.Records
import Dstx.Lib.HidDescriptor
import Dstx.Lib.CArith
import Dstx.Lib.Split
import Dstx.Lib.FirstDifference
import Dstx.Lib.Loop
import Dstx.Lib.Notices
import Dstx.Lib.Memo
import Dstx.Lib.CBuffer
import Dstx.CJson
import Dstx.Slot
import Dstx.Device
import Dstx.Keys
import Dstx.Record
import Dstx.Profile.Codec
import Dstx.Profile.Manager
import Dstx.Profile.Sync
import Dstx.Profile.Files
import Dstx.Profile.RoundTrip
import Dstx.Profile.Request
import Dstx.Profile.Confinement
import Dstx.Profile.Steps
import Dstx.Profile.Watch
import Dstx.Profile.Consistency
import Dstx.Profile.Durability
import Dstx.Profile.Ranges
import Dstx.Profile.Loading
import Dstx.Profile.Refusals
import Dstx.Profile.Listing
import Dstx.Settings.Setting
import Dstx.Settings.Machine
import Dstx.Settings.Alone
import Dstx.Settings.Mail
import Dstx.Settings.Requests
import Dstx.Settings.Moves
import Dstx.Settings.Window
import Dstx.Led.Engine
import Dstx.Led.Animation
import Dstx.Led.EffectTable
import Dstx.Led.ColourCache
import Dstx.Commands.Cli
import Dstx.Commands.Handlers
import Dstx.Commands.Batch
import Dstx.Commands.Grammar
import Dstx.Commands.Tui
import Dstx.Commands.Dbus
import Dstx.Commands.Changes
import Dstx.Commands.Ranges
import Dstx.Commands.Presets
import Dstx.Commands.LedMode
import Dstx.Commands.Agreement
import Dstx.Commands.KeymapOps
import Dstx.Commands.UiLoop
import Dstx.Driver.Translate
import Dstx.Driver.Debounce
import Dstx.Driver.Device
import Dstx.Driver.Nsw
import Dstx.Driver.Magnitude
import Dstx.Driver.InputLayouts
import Dstx.Driver.UhidDescriptor
import Dstx.Rumble.Effects
import Dstx.Rumble.Output
import Dstx.Led.Retries
import Dstx.Rumble.Gain
import Dstx.Rumble.Switch
import Dstx.Rumble.Layouts
import Dstx.Driver.NswNodes
import Dstx.Driver.NswRemoval
import Dstx.Rumble.NswCache
import Dstx.Rumble.Pending
import Dstx.Daemon.VirtualDevice
import Dstx.Daemon.UhidRecords
import Dstx.Daemon.ShortReads
import Dstx.Daemon.SafeWrite
import Dstx.Daemon.Locking
import Dstx.Daemon.Workers
import Dstx.Daemon.Lifecycle
import Dstx.Daemon.Watchdog
import Dstx.Daemon.Recreate
import Dstx.Daemon.Paths
import Dstx.Daemon.Registration
import Dstx.Daemon.Hotplug
import Dstx.Daemon.Liveness
import Dstx.Daemon.Answers
import Dstx.Driver.Occupants
import Dstx.Bridge.State
import Dstx.Bridge.Monitor
import Dstx.Bridge.RateLimits
import Dstx.Bridge.Handlers
import Dstx.Bridge.Replies
import Dstx.Gui.Versions
import Dstx.Gui.TextureCache
import Dstx.Gui.SvgColorizer
import Dstx.Gui.ThemeManager
import Dstx.Gui.Controller
import Dstx.Gui.ControllerManager
import Dstx.Gui.ConfigRefresh
import Dstx.Gui.Mirror
import Dstx.Gui.SettingsController
import Dstx.Gui.KeybindsDialog
import Dstx.Gui.AppState
import Dstx.Gui.SettingsManager
