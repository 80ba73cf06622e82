import MuRockchip.Base.Bytes
import MuRockchip.Base.Memory
import MuRockchip.Base.Layout
import MuRockchip.Base.ListEdits
import MuRockchip.Base.Pool
import MuRockchip.Base.Run
import MuRockchip.Base.Tiling
import MuRockchip.Uefi.Status
import MuRockchip.Uefi.Types
import MuRockchip.Optee.SharedMem
import MuRockchip.Optee.SharedMemSafety
import MuRockchip.Optee.SharedMemLedger
import MuRockchip.Optee.MsgCodec
import MuRockchip.Password.Policy
import MuRockchip.Password.Store
import MuRockchip.Password.StoreSafety
import MuRockchip.SdMmc.Commands
import MuRockchip.SdMmc.BlockIo
import MuRockchip.SdMmc.BlockIoOutcomes
import MuRockchip.SdMmc.BlockIoSafety
import MuRockchip.AuthVar.Services
import MuRockchip.AuthVar.Confinement
import MuRockchip.AuthVar.Session
import MuRockchip.AuthVar.SecureBoot
import MuRockchip.AuthVar.Marshalling
import MuRockchip.Base.Prog
import MuRockchip.SdMmc.Card
import MuRockchip.SdMmc.Host
import MuRockchip.SdMmc.Protocol
import MuRockchip.SdMmc.SoftReset
import MuRockchip.SdMmc.Rpmb
import MuRockchip.SdMmc.Operations
import MuRockchip.SdMmc.RecoverySafety
import MuRockchip.SdMmc.CommandSafety
import MuRockchip.SdMmc.StopTransmission
import MuRockchip.SdMmc.SoftResetSafety
import MuRockchip.Base.RunMap
import MuRockchip.Fvb.Volume
import MuRockchip.Fvb.BlockMap
import MuRockchip.Fvb.ReadWrite
import MuRockchip.Fvb.Erase
import MuRockchip.Fvb.Header
import MuRockchip.Fvb.Attributes
import MuRockchip.Fvb.VarStore
import MuRockchip.Base.AddressMap
import MuRockchip.Fvb.Runtime
import MuRockchip.SdMmc.PartitionSafety
import MuRockchip.SdMmc.BootConfig
import MuRockchip.SdMmc.Transcript
import MuRockchip.SdMmc.RpmbTransaction
import MuRockchip.Optee.RpmbRpc
import MuRockchip.Password.Authentication
import MuRockchip.Cpu.Voltage
import MuRockchip.Cpu.VoltageSafety
import MuRockchip.Base.Bitmap
import MuRockchip.Ohci.MemPool
import MuRockchip.Ohci.MemPoolSafety
import MuRockchip.Optee.FtpmCommand
import MuRockchip.Base.ProgCalls
import MuRockchip.SdMmc.RecoveryEscalation
import MuRockchip.SdMmc.MediaGeometry
import MuRockchip.SdMmc.BlockIoGeometry
import MuRockchip.SdMmc.Capacity
import MuRockchip.AuthVar.BufferSize
import MuRockchip.Mmc.BlockIo
import MuRockchip.Mmc.BlockIoSafety
import MuRockchip.AuthVar.Measurement
import MuRockchip.Optee.RpcMemory
import MuRockchip.Optee.RpcRegisters
import MuRockchip.Optee.RpcTime
import MuRockchip.Base.Links
import MuRockchip.Ohci.Descriptors
import MuRockchip.Ohci.DataStage
import MuRockchip.Ohci.TransferChain
import MuRockchip.Ohci.ChainTiling
import MuRockchip.Ohci.BulkTransfer
import MuRockchip.Ohci.Completion
import MuRockchip.Ohci.Device
import MuRockchip.Ohci.Schedule
import MuRockchip.Ohci.InterruptTransfer
import MuRockchip.Ohci.SyncInterrupt
import MuRockchip.Ohci.HouseKeeper
import MuRockchip.Ohci.ContextSafety
import MuRockchip.Ohci.IntervalTree
import MuRockchip.Ohci.ScheduleIntegrity
import MuRockchip.Base.Fields
import MuRockchip.Clock.PllSearch
import MuRockchip.Clock.Rk3399Pll
import MuRockchip.Clock.Rk356xPll
import MuRockchip.Clock.MshcClock
import MuRockchip.Base.Bcd
import MuRockchip.Rtc.EfiTime
import MuRockchip.Rtc.Hym8563
import MuRockchip.Base.Calendar
import MuRockchip.Rtc.Hym8563Snapshot
import MuRockchip.Rtc.Rk808
import MuRockchip.Base.Traced
import MuRockchip.Display.EdidParse
import MuRockchip.Display.EdidRead
import MuRockchip.Uefi.DevicePath
import MuRockchip.Boot.BootMenu
import MuRockchip.Boot.BootOrderLoop
import MuRockchip.Boot.BootOrderDeletion
import MuRockchip.Boot.BootOrderEditing
import MuRockchip.Boot.BootPolicy
import MuRockchip.Ohci.ControlTransfer
import MuRockchip.Ohci.TransferBalance
import MuRockchip.Display.TimingRegisters
import MuRockchip.Display.BltScroll
import MuRockchip.Base.Moves
import MuRockchip.Display.DriverStart
import MuRockchip.Config.BootManagerSettings
import MuRockchip.Config.ConfigPolicy
import MuRockchip.Mtl.Mailbox
import MuRockchip.Optee.FtpmSession
import MuRockchip.Pci.ConfigView
import MuRockchip.Acpi.SignatureCoverage
import MuRockchip.Config.SettingsSurvival
import MuRockchip.Base.LastRequest
import MuRockchip.Config.SettingsProviders
import MuRockchip.Smbios.BiosVersion
import MuRockchip.Smbios.Record
import MuRockchip.Otp.OtpRead
import MuRockchip.Rng.Trng
import MuRockchip.I2c.Rk356xI2c
import MuRockchip.I2c.Rk3399I2c
import MuRockchip.Dram.VirtualMemoryMap
import MuRockchip.Boot.InternalShell
import MuRockchip.Mmc.MshcPio
import MuRockchip.Base.Records
import MuRockchip.Optee.MsgLayout
import MuRockchip.Optee.RpcCommands
import MuRockchip.Optee.Exchange
import MuRockchip.Optee.SharedMemFrame
import MuRockchip.Optee.ExchangeSafety
import MuRockchip.AuthVar.Lifecycle
import MuRockchip.Pci.ConfigBuffer
import MuRockchip.Base.BitFields
import MuRockchip.Pci.ConfigField
import MuRockchip.Base.Crc
import MuRockchip.Otp.Serial
import MuRockchip.SdMmc.CardSlots
import MuRockchip.Base.RegisterFile
import MuRockchip.Clock.CruRegisters
import MuRockchip.Clock.CruReadBack
import MuRockchip.Base.Discipline
import MuRockchip.Mmc.CardSize
import MuRockchip.Mmc.IdentificationSafety
import MuRockchip.Mmc.MediaSafety
