import OvnKubernetes.Go.Strings
import OvnKubernetes.Go.Net.Parse
import OvnKubernetes.Go.Net.Format
import OvnKubernetes.Cluster.Subnet
import OvnKubernetes.Config.Init
import OvnKubernetes.Config.Exec
import OvnKubernetes.OvnKube.PidFile
import OvnKubernetes.OvnKube.Run
import OvnKubernetes.Ovn.ManagementPort
