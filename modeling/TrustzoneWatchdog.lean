import TrustzoneWatchdog.Lib.Clocked
import TrustzoneWatchdog.Lib.Countdown
import TrustzoneWatchdog.Pl.Core
import TrustzoneWatchdog.Pl.Voter
import TrustzoneWatchdog.Pl.AxiSlave
import TrustzoneWatchdog.Pl.WriteChannel
import TrustzoneWatchdog.Pl.Timeout
import TrustzoneWatchdog.Lib.AlarmRun
import TrustzoneWatchdog.Heartbeat.Monitor
import TrustzoneWatchdog.Heartbeat.Protocol
import TrustzoneWatchdog.Heartbeat.Restart
import TrustzoneWatchdog.Heartbeat.Trigger
import TrustzoneWatchdog.Lib.Loop
import TrustzoneWatchdog.Loader.Device
import TrustzoneWatchdog.Loader.Aes
import TrustzoneWatchdog.Loader.Pcap
import TrustzoneWatchdog.Loader.Blocks
import TrustzoneWatchdog.Loader.FailStop
import TrustzoneWatchdog.Loader.Walk
import TrustzoneWatchdog.Loader.FpgaMgr
import TrustzoneWatchdog.Loader.Bounds
import TrustzoneWatchdog.Loader.Isolation
import TrustzoneWatchdog.Loader.Lengths
import TrustzoneWatchdog.Loader.Iv
import TrustzoneWatchdog.Loader.ByteOrder
import TrustzoneWatchdog.Loader.KeyLoad
import TrustzoneWatchdog.Downloader.Client
import TrustzoneWatchdog.Lib.Memory
import TrustzoneWatchdog.Downloader.Buffer
import TrustzoneWatchdog.Downloader.Service
import TrustzoneWatchdog.Pl.Kick
import TrustzoneWatchdog.Pl.CountdownLaw
import TrustzoneWatchdog.Pl.ReadChannel
import TrustzoneWatchdog.Pl.NonInterference
import TrustzoneWatchdog.Pl.RegisterFile
import TrustzoneWatchdog.Pl.Diagnosis
import TrustzoneWatchdog.Tee.Busy
import TrustzoneWatchdog.Tee.Reentry
import TrustzoneWatchdog.Lib.RefLock
import TrustzoneWatchdog.Tee.Session
import TrustzoneWatchdog.Tee.SessionSafety
import TrustzoneWatchdog.Tee.SessionProgress
import TrustzoneWatchdog.Tee.Core
import TrustzoneWatchdog.Tee.CoreProgress
import TrustzoneWatchdog.Heartbeat.Beacons
import TrustzoneWatchdog.Lib.Timed
import TrustzoneWatchdog.Heartbeat.Timing
import TrustzoneWatchdog.Loader.Newlib
import TrustzoneWatchdog.Loader.Bitstream
import TrustzoneWatchdog.Lib.Fair
import TrustzoneWatchdog.Firmware.WarmRestart
import TrustzoneWatchdog.Heartbeat.Race
import TrustzoneWatchdog.Firmware.Gic
import TrustzoneWatchdog.Firmware.Routing
import TrustzoneWatchdog.Firmware.Dispatch
import TrustzoneWatchdog.Firmware.Boot
import TrustzoneWatchdog.Firmware.Timer
import TrustzoneWatchdog.Firmware.Board
import TrustzoneWatchdog.Lib.Mmio
import TrustzoneWatchdog.Lib.Simulation
import TrustzoneWatchdog.Loader.Mmio
import TrustzoneWatchdog.Loader.Engine
import TrustzoneWatchdog.Loader.KupWindow
import TrustzoneWatchdog.Loader.EngineRun
