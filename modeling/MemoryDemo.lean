import MemoryDemo.Library.CursorWalk
import MemoryDemo.Library.Interval
import MemoryDemo.Library.Accumulator
import MemoryDemo.Library.Transition
import MemoryDemo.Library.CallTree
import MemoryDemo.Library.Ledger
import MemoryDemo.Mach.VmRegion
import MemoryDemo.Mach.PrintMemoryInfo
import MemoryDemo.Mach.RealPrivateMemory
import MemoryDemo.Mach.ProportionalShare
import MemoryDemo.Mach.SubmapWalk
import MemoryDemo.Mach.SharedMemorySize
import MemoryDemo.Windows.ProcessMonitor
import MemoryDemo.Windows.WorkingSet
import MemoryDemo.Windows.VirtualAddress
import MemoryDemo.System.Statistics
import MemoryDemo.System.Metrics
import MemoryDemo.System.Pressure
import MemoryDemo.Darwin.Calls
import MemoryDemo.Darwin.MonitorTests
import MemoryDemo.Darwin.FootprintDemos
import MemoryDemo.Mach.RegionWalks
import MemoryDemo.System.FileMapReports
import MemoryDemo.System.PressurePercentage
import MemoryDemo.Darwin.SysvSearch
import MemoryDemo.Darwin.ActivityDemos
import MemoryDemo.Windows.Calls
import MemoryDemo.Windows.AllocationDemos
import MemoryDemo.Library.Stride
import MemoryDemo.Library.Streams
import MemoryDemo.Darwin.MappedStores
import MemoryDemo.System.FileCache
import MemoryDemo.Common.PageLoops
import MemoryDemo.Common.FormatMemorySize
import MemoryDemo.Darwin.LibrarySource
import MemoryDemo.Darwin.SharedLibrary
import MemoryDemo.System.Options
import MemoryDemo.Windows.TempFileChunks
import MemoryDemo.Library.ForkJoin
import MemoryDemo.Darwin.SharedPages
import MemoryDemo.Darwin.MachSharedMemory
import MemoryDemo.Darwin.DemoFamilies
import MemoryDemo.Darwin.LibraryFamily
import MemoryDemo.Library.MappedFile
import MemoryDemo.System.UserFiles
import MemoryDemo.Common.MappedDemos
import MemoryDemo.Darwin.ForkReadings
import MemoryDemo.Library.Hosted
import MemoryDemo.Windows.MetricsDemos
import MemoryDemo.Darwin.DemoSequences
import MemoryDemo.System.ReportTexts
import MemoryDemo.Library.Sweep
import MemoryDemo.Darwin.PurgeableDemos
import MemoryDemo.Library.Leftovers
import MemoryDemo.Mach.ChangingSpaces
import MemoryDemo.Windows.DemoSequences
import MemoryDemo.System.MetricsTable
import MemoryDemo.Darwin.MachFamily
import MemoryDemo.Library.Grains
import MemoryDemo.Darwin.Grains
